import TurtleGrammar.Document
import TurtleGrammar.Proofs.Text.Cutting

/-! The surrogates in a text. What is made of strings has none, and what is put together of texts
has those of the texts. A text that cannot be encoded has one, the first of them, and a document
that can be encoded reaches its file as it is. -/

namespace TurtleGrammar

namespace Text

/-- The surrogate that a code point is. -/
def CodePoint.surrogate? : CodePoint → Option Surrogate
  | .scalar _ => none
  | .surrogate s => some s

/-- The surrogates in a text, in order. -/
def surrogates (t : Text) : List Surrogate := t.filterMap CodePoint.surrogate?

variable {s t : Text} {x : Surrogate}

theorem mem_surrogates_iff : x ∈ surrogates t ↔ .surrogate x ∈ t := by
  rw [surrogates, List.mem_filterMap]
  constructor
  · rintro ⟨c, hc, hx⟩
    cases c with
    | scalar => cases hx
    | surrogate =>
      cases hx
      exact hc
  · exact fun h => ⟨_, h, rfl⟩

@[simp] theorem surrogates_nil : surrogates [] = [] := rfl

@[simp] theorem surrogates_append : surrogates (s ++ t) = surrogates s ++ surrogates t :=
  List.filterMap_append

theorem surrogates_scalar (c : Char) : surrogates (.scalar c :: t) = surrogates t := rfl

@[simp] theorem surrogates_ofChars (chars : List Char) : surrogates (ofChars chars) = [] := by
  rw [surrogates, ofChars, List.filterMap_map, List.filterMap_eq_nil_iff]
  exact fun _ _ => rfl

@[simp] theorem surrogates_ofString (s : String) : surrogates (ofString s) = [] :=
  surrogates_ofChars s.toList

theorem surrogates_flatMap {f : CodePoint → Text} (h : ∀ c, surrogates (f c) = surrogates [c]) :
    surrogates (t.flatMap f) = surrogates t := by
  induction t with
  | nil => rfl
  | cons c t ih =>
    rw [List.flatMap_cons, surrogates_append, ih, h, ← surrogates_append, List.singleton_append]

theorem mem_surrogates_intercalate {mark : Char} {pieces : List Text}
    (h : x ∈ surrogates ([.scalar mark].intercalate pieces)) :
    ∃ piece ∈ pieces, x ∈ surrogates piece := by
  rcases mem_of_mem_intercalate (mem_surrogates_iff.mp h) with hmark | ⟨piece, hpiece, hx⟩
  · cases List.mem_singleton.mp hmark
  · exact ⟨piece, hpiece, mem_surrogates_iff.mpr hx⟩

/-- A text that cannot be encoded is refused at a surrogate in it. -/
theorem mem_surrogates_of_fault {u : Utf8.Unencodable} (h : Utf8.fault? t = some u) :
    u.first ∈ surrogates t := by
  unfold Utf8.fault? at h
  simp only at h
  split at h
  · next y rest hrest =>
    cases h
    have hmem := List.mem_cons_self (a := CodePoint.surrogate y) (l := rest)
    rw [← hrest] at hmem
    exact mem_surrogates_iff.mpr (List.mem_of_mem_drop hmem)
  · cases h

/-- A text that can be encoded holds characters only. -/
theorem isScalar_of_fault (h : Utf8.fault? t = none) : ∀ c ∈ t, c.isScalar = true := by
  have hcut : List.drop (t.takeWhile CodePoint.isScalar).length
      (t.takeWhile CodePoint.isScalar ++ t.dropWhile CodePoint.isScalar) =
        t.dropWhile CodePoint.isScalar := List.drop_left
  rw [List.takeWhile_append_dropWhile] at hcut
  cases hrest : t.dropWhile CodePoint.isScalar with
  | nil => exact List.dropWhile_eq_nil_iff.mp hrest
  | cons c rest =>
    have hc := List.head?_dropWhile_not CodePoint.isScalar t
    rw [hrest] at hc
    cases c with
    | scalar => cases hc
    | surrogate => simp [Utf8.fault?, hcut, hrest] at h

theorem ofChars_map_shown (h : ∀ c ∈ t, c.isScalar = true) :
    ofChars (t.map CodePoint.shown) = t := by
  rw [ofChars, List.map_map]
  refine (List.map_congr_left fun c hc => ?_).trans (List.map_id t)
  cases c with
  | scalar => rfl
  | surrogate => cases h _ hc

end Text

namespace Document

variable {d : Document}

/-- All of a document that can be encoded reaches the file. -/
theorem toList_written (h : d.fault? = none) :
    d.written.toList = d.flatten.map Text.CodePoint.shown := by
  have hpieces := List.findSome?_eq_none_iff.mp h
  have hall : d.takeWhile isSound = d :=
    List.takeWhile_eq_self_iff.mpr fun piece hpiece =>
      Option.isNone_iff_eq_none.mpr (hpieces piece hpiece)
  rw [written, hall, String.toList_join, List.flatMap_map, List.map_flatten, ← List.flatMap_def]
  exact List.flatMap_congr fun piece _ => String.toList_ofList

theorem ofString_written (h : d.fault? = none) : Text.ofString d.written = d.flatten := by
  rw [Text.ofString, toList_written h]
  refine Text.ofChars_map_shown fun c hc => ?_
  obtain ⟨piece, hpiece, hc⟩ := List.mem_flatten.mp hc
  exact Text.isScalar_of_fault (List.findSome?_eq_none_iff.mp h piece hpiece) c hc

end Document

end TurtleGrammar
