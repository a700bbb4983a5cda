import TurtleGrammar.Proofs.Drawing.Markup
import TurtleGrammar.Proofs.Outcome.Ends
import TurtleGrammar.Proofs.Text.Surrogates

/-! The texts in a drawing. Its numerals and its marks are made of characters, so a surrogate in a
drawing comes from a text that the sheet gives: the title, the colours, and how lines are drawn. A
drawing that cannot be made is refused. -/

namespace TurtleGrammar.Svg.Sheet

open Text (surrogates)

/-- The texts that a sheet gives. -/
def texts (sheet : Sheet) : List Text :=
  sheet.title.toList ++ sheet.background.toList ++
    [sheet.style.stroke, sheet.style.fill, sheet.style.lineCap, sheet.style.lineJoin]

/-- The surrogates of a text come from the texts that a sheet gives. -/
def Gives (sheet : Sheet) (t : Text) : Prop :=
  ∀ x ∈ surrogates t, ∃ given ∈ sheet.texts, x ∈ surrogates given

variable {sheet : Sheet} {s t : Text}

theorem gives_of_mem (h : t ∈ sheet.texts) : sheet.Gives t := fun _ hx => ⟨t, h, hx⟩

@[simp] theorem gives_nil : sheet.Gives [] := nofun

@[simp] theorem gives_scalar (c : Char) : sheet.Gives (.scalar c :: t) ↔ sheet.Gives t := .rfl

@[simp] theorem gives_ofString (s : String) : sheet.Gives (Text.ofString s) := by
  rw [Gives, Text.surrogates_ofString]
  exact nofun

@[simp] theorem gives_append : sheet.Gives (s ++ t) ↔ sheet.Gives s ∧ sheet.Gives t := by
  rw [Gives, Text.surrogates_append, List.forall_mem_append]
  rfl

@[simp] theorem gives_escape : sheet.Gives (escape t) ↔ sheet.Gives t := by
  have hsame : surrogates (escape t) = surrogates t := by
    refine Text.surrogates_flatMap fun c => ?_
    rcases Markup.escapeCodePoint_cases c with ⟨rfl, h⟩ | ⟨rfl, h⟩ | ⟨rfl, h⟩ | ⟨-, h⟩ <;> rw [h] <;>
      rfl
  rw [Gives, hsame]
  rfl

theorem gives_intercalate {mark : Char} {pieces : List Text} (h : ∀ t ∈ pieces, sheet.Gives t) :
    sheet.Gives ([.scalar mark].intercalate pieces) := by
  intro x hx
  obtain ⟨piece, hpiece, hx⟩ := Text.mem_surrogates_intercalate hx
  exact h piece hpiece x hx

@[simp] theorem gives_attr (name : String) : sheet.Gives (attr name t) ↔ sheet.Gives t := by
  simp [attr]

/-! ### The lines of a drawing -/

@[simp] theorem gives_numeral (x : Float) : sheet.Gives (sheet.numeral x) := gives_ofString _

@[simp] theorem gives_sizeAttribute (name : String) (size : Option Float) :
    sheet.Gives (sheet.sizeAttribute name size) := by
  unfold sizeAttribute
  split
  · split <;> simp
  · simp

theorem gives_root (b : Bounds) : sheet.Gives (sheet.root b) := by simp [root]

theorem gives_titleLines : ∀ line ∈ sheet.titleLines, sheet.Gives line := by
  unfold titleLines
  split
  next title htitle =>
    have hgiven : sheet.Gives title := gives_of_mem (by simp [texts, htitle])
    split <;> simp [hgiven]
  next => exact nofun

theorem gives_backgroundLines (b : Bounds) :
    ∀ line ∈ sheet.backgroundLines b, sheet.Gives line := by
  unfold backgroundLines
  split
  next colour hcolour =>
    have hgiven : sheet.Gives colour := gives_of_mem (by simp [texts, hcolour])
    split <;> simp [hgiven]
  next => exact nofun

theorem gives_styleAttributes : sheet.Gives sheet.styleAttributes := by
  have hstyle : ∀ t ∈ [sheet.style.stroke, sheet.style.fill, sheet.style.lineCap,
      sheet.style.lineJoin], sheet.Gives t :=
    fun t ht => gives_of_mem (List.mem_append_right _ ht)
  simp only [List.forall_mem_cons] at hstyle
  simp [styleAttributes, hstyle]

theorem gives_polylineTag (points : List Point) : sheet.Gives (sheet.polylineTag points) := by
  have hpoints : sheet.Gives ([.scalar ' '].intercalate (points.map sheet.pointText)) :=
    gives_intercalate (by simp [pointText])
  simp [polylineTag, hpoints, gives_styleAttributes]

theorem gives_drawingLines (b : Bounds) (polylines : List (List Point)) :
    ∀ line ∈ sheet.drawingLines b polylines, sheet.Gives line := by
  unfold drawingLines
  split <;> simp [or_imp, forall_and, gives_polylineTag]

theorem gives_lines (b : Bounds) (polylines : List (List Point)) :
    ∀ line ∈ sheet.lines b polylines, sheet.Gives line := by
  simp only [lines, List.forall_mem_append, List.forall_mem_cons]
  exact ⟨⟨⟨⟨⟨gives_ofString _, gives_root b, nofun⟩, gives_titleLines⟩, gives_backgroundLines b⟩,
    gives_drawingLines b polylines⟩, gives_ofString _, nofun⟩

theorem places?_of_le {n : Int} (h : 0 ≤ n ∧ n ≤ 10) : Number.Fixed.places? n = .ok n.toNat := by
  obtain ⟨hlow, hhigh⟩ := h
  rw [Number.Fixed.places?, if_neg (by omega), if_neg, if_neg]
  · simp only [Nat.pow_eq]; omega
  · simp only [Nat.pow_eq]; omega

/-- How the writing of a drawing ends, with a number of decimals that configurations may have. -/
theorem render_ends (h : 0 ≤ sheet.precision ∧ sheet.precision ≤ 10) (segments : List Segment) :
    Ends (fun f => ∃ r, f = .refused r) (fun d => ∀ piece ∈ d, sheet.Gives piece)
      (sheet.render segments) := by
  refine Ends.bind (Ends.mapError (Ends.of_forall fun r => ⟨r, rfl⟩)) fun b _ => ?_
  rw [places?_of_le h]
  refine List.forall_mem_cons.mpr ⟨gives_intercalate (gives_lines b _), ?_⟩
  exact List.forall_mem_singleton.mpr (gives_ofString "\n")

end TurtleGrammar.Svg.Sheet
