import Mathlib.Data.List.Basic
import TurtleGrammar.Document
import TurtleGrammar.Proofs.Outcome.Ends
import TurtleGrammar.Proofs.Text.Surrogates

/-! The null character in paths, which ends every path. A file is not read because of it exactly if
the path holds it. A file is not written because of it only if the path or a name of the working
directory holds it. -/

namespace TurtleGrammar

namespace Location

/-- One of the names holds the null character. -/
def HasNull (l : Location) : Prop := ∃ name ∈ l, '\u0000' ∈ name.toList

variable {l names home : Location} {name path root : String}

theorem hasNull_append : HasNull (l ++ names) ↔ l.HasNull ∨ HasNull names := by
  simp [HasNull, or_and_right, exists_or]

theorem hasNull_of_namesOf (h : HasNull (namesOf path)) : '\u0000' ∈ path.toList := by
  obtain ⟨name, hname, hnull⟩ := h
  obtain ⟨piece, hpiece, rfl⟩ := List.mem_map.mp (List.mem_filter.mp hname).1
  rw [String.toList_ofList] at hnull
  have hmem : '\u0000' ∈ ['/'].intercalate (path.toList.splitOn '/') :=
    Text.mem_intercalate hpiece hnull
  rwa [List.intercalate_splitOn] at hmem

theorem hasNull_of_dropLast (h : HasNull l.dropLast) : l.HasNull := by
  obtain ⟨name, hname, hnull⟩ := h
  exact ⟨name, List.dropLast_subset l hname, hnull⟩

theorem hasNull_of_enter (h : (l.enter name).HasNull) : HasNull (l ++ [name]) := by
  unfold enter at h
  split at h
  · exact hasNull_append.mpr (.inl h)
  · split at h
    · exact hasNull_append.mpr (.inl (hasNull_of_dropLast h))
    · exact h

theorem hasNull_of_foldl (h : (names.foldl enter l).HasNull) : HasNull (l ++ names) := by
  induction names generalizing l with
  | nil => rwa [List.append_nil]
  | cons name names ih =>
    have hrest := hasNull_append.mp (ih h)
    rw [List.append_cons, hasNull_append]
    exact hrest.imp_left hasNull_of_enter

theorem hasNull_of_ofPath (h : (ofPath home path).HasNull) :
    home.HasNull ∨ '\u0000' ∈ path.toList := by
  rcases hasNull_append.mp (hasNull_of_foldl h) with hstart | hnames
  · unfold startOf at hstart
    split at hstart
    · obtain ⟨name, hname, -⟩ := hstart
      cases hname
    · exact .inl hstart
  · exact .inr (hasNull_of_namesOf hnames)

theorem hasNull_of_pathFrom (h : '\u0000' ∈ (pathFrom (rootOf path) l).toList) : l.HasNull := by
  have hroot : '\u0000' ∉ (rootOf path).toList := by
    unfold rootOf
    split <;> decide
  rw [pathFrom, String.toList_append, List.mem_append, String.toList_intercalate] at h
  rcases Text.mem_of_mem_intercalate (h.resolve_left hroot) with hmark | ⟨piece, hpiece, hnull⟩
  · exact absurd hmark (by decide)
  · obtain ⟨name, hname, rfl⟩ := List.mem_map.mp hpiece
    exact ⟨name, hname, hnull⟩

end Location

/-- An error is about the null character only if something is so. -/
def FileError.NullOnlyIf (p : Prop) (e : FileError) : Prop := e = .nullCharacter → p

namespace Files

variable {files after : Files} {names done : Location} {path : String} {e : FileError}
  {f : Failure} {document : Document}

theorem pathFault?_eq_null_iff :
    pathFault? path = some .nullCharacter ↔ '\u0000' ∈ path.toList := by
  rw [pathFault?, String.contains_char_eq]
  by_cases h : '\u0000' ∈ path.toList
  · simp [h]
  · simp [h]

theorem nullOnlyIf_of_pathFault (h : pathFault? path = some e) :
    e.NullOnlyIf ('\u0000' ∈ path.toList) := by
  rintro rfl
  exact pathFault?_eq_null_iff.mp h

theorem locate_ends (files : Files) (path : String) (names : List String) :
    Ends (FileError.NullOnlyIf ('\u0000' ∈ path.toList)) (fun _ => True)
      (files.locate path names) := by
  unfold locate
  split
  · exact nofun
  · split
    · next h => exact nullOnlyIf_of_pathFault h
    · exact Ends.mapError (Ends.of_forall fun _ => nofun)

theorem locate_of_null (h : '\u0000' ∈ path.toList) (names : List String) :
    files.locate path names = .error .nullCharacter := by
  have hne : path.isEmpty = false := by
    rw [String.isEmpty_eq_false_iff]
    rintro rfl
    cases h
  simp only [locate, hne, pathFault?_eq_null_iff.mpr h]
  rfl

theorem read_eq_null_iff :
    files.read path = .error .nullCharacter ↔ '\u0000' ∈ path.toList := by
  constructor
  · intro h
    have hends : Ends (FileError.NullOnlyIf ('\u0000' ∈ path.toList)) (fun _ => True)
        (files.read path) := by
      refine Ends.bind (locate_ends files path _) fun l _ => ?_
      split
      · split
        · exact nofun
        · exact True.intro
      · exact nofun
      · exact nofun
    rw [h] at hends
    exact hends rfl
  · intro h
    simp only [read, locate_of_null h, bind, Except.bind]

theorem addDirectories_ends (files : Files) (path : String) (done names : Location) :
    Ends (fun r => r.2.NullOnlyIf (Location.HasNull (done ++ names))) (fun _ => True)
      (files.addDirectories (Location.rootOf path) done names) := by
  induction names generalizing files done with
  | nil => exact True.intro
  | cons name rest ih =>
    rw [List.append_cons]
    unfold addDirectories
    simp only
    split
    · next h =>
      intro he
      have hnull := Location.hasNull_of_pathFrom (nullOnlyIf_of_pathFault h he)
      exact Location.hasNull_append.mpr (.inl hnull)
    · split
      · exact nofun
      · exact ih _ _

theorem makeDirectories_ends (files : Files) (path : String) (done names : Location) :
    Ends (fun r => r.2.NullOnlyIf (Location.HasNull (done ++ names))) (fun _ => True)
      (files.makeDirectories (Location.rootOf path) done names) := by
  induction names generalizing done with
  | nil => exact True.intro
  | cons name rest ih =>
    have hrest := ih (done ++ [name])
    have hadd := files.addDirectories_ends path done (name :: rest)
    rw [List.append_cons] at hadd ⊢
    unfold makeDirectories
    simp only
    split
    · split
      · exact nofun
      · next next more =>
        -- The path that is reported names one more location than the file that is in the way.
        intro he
        cases hfault : pathFault? (Location.pathFrom (Location.rootOf path)
            (done ++ [name] ++ [next])) with
        | none =>
          rw [hfault] at he
          cases he
        | some fault =>
          rw [hfault] at he
          have hnull := Location.hasNull_of_pathFrom (nullOnlyIf_of_pathFault hfault he)
          rw [List.append_cons]
          exact Location.hasNull_append.mpr (.inl hnull)
    · exact hrest
    · exact hadd

theorem store_ends (files : Files) (path : String) (c : Content) :
    Ends (FileError.NullOnlyIf ('\u0000' ∈ path.toList)) (fun _ => True) (files.store path c) := by
  simp only [store]
  split
  · exact Ends.bind (locate_ends files path _) fun _ _ => nofun
  · refine Ends.bind (locate_ends files path _) fun _ _ => ?_
    split
    · exact nofun
    · exact True.intro

theorem write_ends (files : Files) (path : String) (c : Content) :
    Ends (fun r => r.2.NullOnlyIf (files.home.HasNull ∨ '\u0000' ∈ path.toList)) (fun _ => True)
      (files.write path c) := by
  refine Ends.bind (Ends.mono (makeDirectories_ends files path [] _) ?_ fun _ h => h)
    fun made _ => Ends.mapError ((store_ends made path c).mono (fun e h he => .inr (h he))
      fun _ h => h)
  intro r h he
  exact Location.hasNull_of_ofPath (Location.hasNull_of_dropLast (h he))

/-- Why a document is not written whole. -/
theorem save_failure (h : (files.save path document).2 = some f) :
    (∃ e, f = .file e ∧ e.NullOnlyIf (files.home.HasNull ∨ '\u0000' ∈ path.toList)) ∨
      ∃ u, f = .unencodable u ∧ ∃ piece ∈ document, u.first ∈ Text.surrogates piece := by
  have hends := files.write_ends path (.text document.written)
  unfold save at h
  split at h
  · next made e hwrite =>
    rw [hwrite] at hends
    cases h
    exact .inl ⟨e, rfl, hends⟩
  · obtain ⟨u, hu, rfl⟩ := Option.map_eq_some_iff.mp h
    obtain ⟨piece, hpiece, hfault⟩ := List.exists_of_findSome?_eq_some hu
    exact .inr ⟨u, rfl, piece, hpiece, Text.mem_surrogates_of_fault hfault⟩

end Files

end TurtleGrammar
