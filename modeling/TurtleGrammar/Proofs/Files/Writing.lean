import TurtleGrammar.Document
import TurtleGrammar.Proofs.Outcome.Ends

/-! What a write changes among the files. If it succeeds, the file at the location to which its path
leads by its names alone is put there, or changed in its place, and every other file stays. If it
fails, all files stay. The directories that are made on the way stay in either case, and hold no
files. -/

namespace TurtleGrammar.Files

variable {files made after : Files} {l l' done : Location} {names : List String} {path root : String}
  {c : Content} {entries : List (Location × Content)}

theorem lookup_cons :
    List.lookup l' ((l, c) :: entries) = if l' = l then some c else entries.lookup l' := by
  by_cases h : l' = l
  · subst h
    simp
  · rw [List.lookup_cons, beq_false_of_ne h, if_neg h]

theorem lookup_put :
    (put l c entries).lookup l' = if l' = l then some c else entries.lookup l' := by
  induction entries with
  | nil => rw [put, lookup_cons]
  | cons entry rest ih =>
    obtain ⟨k, old⟩ := entry
    rw [put]
    split
    · next hk =>
      subst hk
      rw [lookup_cons, lookup_cons]
      split <;> rfl
    · next hk =>
      rw [lookup_cons, ih, lookup_cons]
      by_cases h : l' = k
      · rw [if_pos h, if_neg (h ▸ hk), if_pos h]
      · rw [if_neg h, if_neg h]

/-- Names that can be followed lead where they lead whatever is there. -/
theorem follow_eq (h : files.follow l names = .ok l') : l' = names.foldl Location.enter l := by
  induction names generalizing l with
  | nil =>
    cases h
    rfl
  | cons name rest ih =>
    rw [follow] at h
    split at h
    · split at h
      · cases h
      · exact ih h
    · cases h
    · cases h

theorem locate_eq (h : files.locate path names = .ok l) :
    l = names.foldl Location.enter (Location.startOf files.home path) := by
  unfold locate at h
  split at h
  · cases h
  · split at h
    · cases h
    · cases hfollow : files.follow (Location.startOf files.home path) names with
      | error e =>
        rw [hfollow] at h
        cases h
      | ok found =>
        rw [hfollow] at h
        cases h
        exact follow_eq hfollow

/-! ### Directories -/

/-- The same files in the same working directory, and at most more directories. -/
structure AddsDirectories (old new : Files) : Prop where
  files : new.files = old.files
  home : new.home = old.home
  directories : old.directories ⊆ new.directories

theorem AddsDirectories.refl (files : Files) : files.AddsDirectories files :=
  ⟨rfl, rfl, List.Subset.refl _⟩

theorem AddsDirectories.trans (h : files.AddsDirectories made) (h' : made.AddsDirectories after) :
    files.AddsDirectories after :=
  ⟨h'.files.trans h.files, h'.home.trans h.home,
    List.Subset.trans h.directories h'.directories⟩

theorem addsDirectories_cons (files : Files) (l : Location) :
    files.AddsDirectories { files with directories := l :: files.directories } :=
  ⟨rfl, rfl, List.subset_cons_self _ _⟩

/-- Whether or not all directories can be made, nothing else is changed. -/
theorem addDirectories_adds (files : Files) (root : String) (done names : Location) :
    Ends (fun r => files.AddsDirectories r.1) files.AddsDirectories
      (files.addDirectories root done names) := by
  induction names generalizing files done with
  | nil => exact .refl files
  | cons name rest ih =>
    unfold addDirectories
    simp only
    split
    · exact .refl files
    · split
      · exact .refl files
      · exact (ih _ _).mono (fun _ h => (addsDirectories_cons files _).trans h)
          fun _ h => (addsDirectories_cons files _).trans h

theorem makeDirectories_adds (files : Files) (root : String) (done names : Location) :
    Ends (fun r => files.AddsDirectories r.1) files.AddsDirectories
      (files.makeDirectories root done names) := by
  induction names generalizing done with
  | nil => exact .refl files
  | cons name rest ih =>
    unfold makeDirectories
    simp only
    split
    · split <;> exact .refl files
    · exact ih _
    · exact addDirectories_adds files root done _

/-! ### Files -/

theorem store_ends_with (files : Files) (path : String) (c : Content) :
    Ends (fun _ => True)
      (fun after => after.files = put (Location.ofPath files.home path) c files.files)
      (files.store path c) := by
  simp only [store]
  split
  · exact Ends.bind (Ends.of_forall fun _ => True.intro) fun _ _ => True.intro
  · -- what can be found is at the location to which the names alone lead
    refine Ends.bind ((Ends.of_forall fun _ => True.intro).with_eq) fun l ⟨_, hl⟩ => ?_
    split
    · exact True.intro
    · rw [locate_eq hl]
      rfl

theorem write_ends_with (files : Files) (path : String) (c : Content) :
    Ends (fun r => files.AddsDirectories r.1)
      (fun after => after.files = put (Location.ofPath files.home path) c files.files)
      (files.write path c) := by
  refine Ends.bind (makeDirectories_adds files _ [] _) fun made hmade => Ends.mapError ?_
  have hstore := store_ends_with made path c
  rw [hmade.files, hmade.home] at hstore
  exact hstore.mono (fun _ _ => hmade) fun _ h => h

/-- A document is not saved at all, or it is put at its place as far as it can be encoded. -/
theorem save_cases (files : Files) (path : String) (document : Document) :
    (∃ made e, files.save path document = (made, some (.file e)) ∧ files.AddsDirectories made) ∨
    ∃ after, files.save path document = (after, document.fault?.map .unencodable) ∧
      after.files =
        put (Location.ofPath files.home path) (.text document.written) files.files := by
  have hends := write_ends_with files path (.text document.written)
  unfold save
  cases hwrite : files.write path (.text document.written) with
  | error r =>
    rw [hwrite] at hends
    exact .inl ⟨r.1, r.2, rfl, hends⟩
  | ok after =>
    rw [hwrite] at hends
    exact .inr ⟨after, rfl, hends⟩

end TurtleGrammar.Files
