import TurtleGrammar.Proofs.Files.Writing
import TurtleGrammar.Proofs.Grammar.Reading

/-! Files read back. What was written by a path is read by the same path, and writing it once more
changes nothing: the directories on the way are there, and none of them is the file. -/

namespace TurtleGrammar.Files

variable {files made after : Files} {l l' k done : Location} {names : List String}
  {path root : String} {c : Content} {entries : List (Location × Content)}

/-- The files with one put at a location. -/
abbrev placed (files : Files) (l : Location) (c : Content) : Files :=
  { files with files := put l c files.files }

theorem entry_eq_directory_iff :
    files.entry l = .directory ↔ files.files.lookup l = none ∧
      (l.isPrefixOf files.home || files.directories.any (l.isPrefixOf ·) ||
        files.files.any (l.isPrefixOf ·.1)) = true := by
  rw [entry]
  split
  · next h => simp [h]
  · next h =>
    rw [h]
    split
    · next hany => simp [hany]
    · next hany => simp [hany]

/-- Nothing lies below a location at which nothing stands. -/
theorem lookup_below_nothing (h : files.entry l = .nothing) (more : Location) :
    files.files.lookup (l ++ more) = none := by
  have hnone : ¬files.files.any (l.isPrefixOf ·.1) := by
    rw [entry] at h
    split at h
    · cases h
    · split at h
      · cases h
      · next hany => exact fun hbelow => hany (by rw [hbelow, Bool.or_true])
  rw [List.lookup_eq_none_iff]
  intro entry hentry
  refine bne_iff_ne.mpr fun heq => hnone (List.any_eq_true.mpr ⟨entry, hentry, ?_⟩)
  rw [← heq]
  exact List.isPrefixOf_iff_prefix.mpr (List.prefix_append l more)

/-! ### The way to a file -/

theorem any_put {p : Location → Bool} (h : entries.any (fun e => p e.1) = true) :
    (put l c entries).any (fun e => p e.1) = true := by
  induction entries with
  | nil => cases h
  | cons entry entries ih =>
    obtain ⟨k, old⟩ := entry
    rw [put]
    split
    · next hk =>
      subst hk
      exact h
    · rw [List.any_cons, Bool.or_eq_true] at h ⊢
      exact h.imp_right ih

/-- A file that is put where no directory stands leaves the directories. -/
theorem entry_put_of_directory (hl : files.entry l ≠ .directory) (hk : files.entry k = .directory) :
    (files.placed l c).entry k = .directory := by
  have hne : k ≠ l := by
    rintro rfl
    exact hl hk
  obtain ⟨hlookup, hany⟩ := entry_eq_directory_iff.mp hk
  refine entry_eq_directory_iff.mpr ⟨by rwa [lookup_put, if_neg hne], ?_⟩
  rw [Bool.or_eq_true] at hany ⊢
  exact hany.imp_right any_put

theorem entry_put_self : (files.placed l c).entry l = .file c := by
  rw [entry, lookup_put, if_pos rfl]

theorem put_put : put l c (put l c entries) = put l c entries := by
  induction entries with
  | nil => simp [put]
  | cons entry entries ih =>
    obtain ⟨k, old⟩ := entry
    rw [put]
    split
    · simp [put]
    · next hk => rw [put, if_neg hk, ih]

theorem follow_put (hl : files.entry l ≠ .directory) (h : files.follow k names = .ok l') :
    (files.placed l c).follow k names = .ok l' := by
  induction names generalizing k with
  | nil => exact h
  | cons name names ih =>
    rw [follow] at h ⊢
    split at h
    · next hk =>
      rw [entry_put_of_directory hl hk]
      split at h
      · cases h
      · next hshort => exact (if_neg hshort).trans (ih h)
    · cases h
    · cases h

theorem locate_put (hl : files.entry l ≠ .directory) (h : files.locate path names = .ok l') :
    (files.placed l c).locate path names = .ok l' := by
  unfold locate at h ⊢
  split at h
  · cases h
  · next hempty =>
    rw [if_neg hempty]
    split at h
    · cases h
    · exact mapError_eq_ok.mpr (follow_put hl (mapError_eq_ok.mp h))

/-- A file is stored by a path that leads to it, where no directory stands. -/
theorem store_eq_ok (h : files.store path c = .ok after) :
    path.endsWith "/" = false ∧ ∃ l, files.locate path (Location.namesOf path) = .ok l ∧
      files.entry l ≠ .directory ∧ after = files.placed l c := by
  simp only [store] at h
  split at h
  · obtain ⟨l, -, hl⟩ := bind_eq_ok.mp h
    cases hl
  · next hslash =>
    obtain ⟨l, hlocate, hl⟩ := bind_eq_ok.mp h
    refine ⟨by simpa using hslash, l, hlocate, ?_⟩
    split at hl
    · cases hl
    · next hentry =>
      cases hl
      exact ⟨hentry, rfl⟩

theorem read_store (h : files.store path c = .ok after) : after.read path = .ok c := by
  obtain ⟨hslash, l, hlocate, hentry, rfl⟩ := store_eq_ok h
  refine bind_eq_ok.mpr ⟨l, locate_put hentry hlocate, ?_⟩
  rw [entry_put_self]
  simp only [hslash]
  rfl

theorem store_store (h : files.store path c = .ok after) : after.store path c = .ok after := by
  obtain ⟨hslash, l, hlocate, hentry, rfl⟩ := store_eq_ok h
  simp only [store, hslash]
  refine bind_eq_ok.mpr ⟨l, locate_put hentry hlocate, ?_⟩
  rw [entry_put_self]
  simp only [put_put]

/-! ### Directories -/

/-- Each of the directories that names lead to, one in the other, is there. -/
def HasDirectories (files : Files) (done : Location) : List String → Prop
  | [] => True
  | name :: rest =>
    files.entry (done ++ [name]) = .directory ∧ files.HasDirectories (done ++ [name]) rest

theorem HasDirectories.put (hl : files.entry l ≠ .directory) (h : files.HasDirectories done names) :
    (files.placed l c).HasDirectories done names := by
  induction names generalizing done with
  | nil => trivial
  | cons name names ih => exact ⟨entry_put_of_directory hl h.1, ih h.2⟩

/-- Nothing is made where all directories are there. -/
theorem HasDirectories.makeDirectories (h : files.HasDirectories done names) :
    files.makeDirectories root done names = .ok files := by
  induction names generalizing done with
  | nil => rfl
  | cons name names ih =>
    unfold Files.makeDirectories
    simp only [h.1]
    exact ih h.2

theorem AddsDirectories.entry (hadds : files.AddsDirectories after)
    (h : files.entry k = .directory) : after.entry k = .directory := by
  obtain ⟨hlookup, hany⟩ := entry_eq_directory_iff.mp h
  refine entry_eq_directory_iff.mpr ⟨by rw [hadds.files, hlookup], ?_⟩
  rw [hadds.files, hadds.home]
  simp only [Bool.or_eq_true, List.any_eq_true] at hany ⊢
  rcases hany with (h | ⟨d, hd, hk⟩) | h
  · exact .inl (.inl h)
  · exact .inl (.inr ⟨d, hadds.directories hd, hk⟩)
  · exact .inr h

theorem entry_added (hnone : files.files.lookup l = none) :
    ({ files with directories := l :: files.directories } : Files).entry l = .directory :=
  entry_eq_directory_iff.mpr ⟨hnone, by simp⟩

/-- The directories that are added are there, where there were no files from the first on. -/
theorem hasDirectories_of_add
    (hnone : ∀ name ∈ names.head?, ∀ more, files.files.lookup (done ++ [name] ++ more) = none)
    (h : files.addDirectories root done names = .ok made) : made.HasDirectories done names := by
  induction names generalizing files done with
  | nil => trivial
  | cons name names ih =>
    have hhere : ∀ more, files.files.lookup (done ++ [name] ++ more) = none := hnone name rfl
    unfold addDirectories at h
    simp only at h
    split at h
    · cases h
    · split at h
      · cases h
      · have hadds := addDirectories_adds
          { files with directories := (done ++ [name]) :: files.directories } root (done ++ [name])
          names
        rw [h] at hadds
        refine ⟨hadds.entry (entry_added (by simpa using hhere [])), ih (fun next _ more => ?_) h⟩
        simpa using hhere (next :: more)

/-- What is made are the directories that are named. -/
theorem hasDirectories_of_make (h : files.makeDirectories root done names = .ok made) :
    made.HasDirectories done names := by
  induction names generalizing done with
  | nil => trivial
  | cons name names ih =>
    have hadds := makeDirectories_adds files root (done ++ [name]) names
    unfold makeDirectories at h
    simp only at h
    split at h
    · split at h <;> cases h
    · next hentry =>
      rw [h] at hadds
      exact ⟨hadds.entry hentry, ih h⟩
    · next hentry =>
      refine hasDirectories_of_add (fun name' hname => ?_) h
      cases hname
      exact lookup_below_nothing hentry

/-- A file is read by the path by which it was written. -/
theorem read_write (h : files.write path c = .ok after) : after.read path = .ok c := by
  obtain ⟨made, -, hstore⟩ := bind_eq_ok.mp h
  exact read_store (mapError_eq_ok.mp hstore)

/-- A file that is written once more stays as it is, and so do all others. -/
theorem write_write (h : files.write path c = .ok after) : after.write path c = .ok after := by
  obtain ⟨made, hmade, hmap⟩ := bind_eq_ok.mp h
  have hstore := mapError_eq_ok.mp hmap
  have hagain := store_store hstore
  have hadds := makeDirectories_adds files (Location.rootOf path) []
    (Location.ofPath files.home path).dropLast
  rw [hmade] at hadds
  obtain ⟨-, l, hlocate, hentry, rfl⟩ := store_eq_ok hstore
  refine bind_eq_ok.mpr ⟨_, HasDirectories.makeDirectories ?_, mapError_eq_ok.mpr hagain⟩
  show (made.placed l c).HasDirectories [] (Location.ofPath made.home path).dropLast
  rw [hadds.home]
  exact (hasDirectories_of_make hmade).put hentry

/-- A document is saved without an error if its file can be written and all of it can be encoded. -/
theorem save_eq_iff {document : Document} :
    files.save path document = (after, none) ↔
      document.fault? = none ∧ files.write path (.text document.written) = .ok after := by
  rw [save]
  cases files.write path (.text document.written) with
  | error e => simp
  | ok written => simp [and_comm]

/-- A file can be written into an empty working directory. -/
theorem write_first (c : Content) :
    (ofList ["home"] []).write "c.json" c =
      .ok ⟨["home"], [(["home", "c.json"], c)], []⟩ := by
  have hnames : Location.namesOf "c.json" = ["c.json"] := by decide
  have hstart : Location.startOf ["home"] "c.json" = ["home"] := by simp [Location.startOf]
  have hfault : pathFault? "c.json" = none := by
    have hshort : isLongPath "c.json" = false := by decide
    simp [pathFault?, hshort]
  have hend : "c.json".endsWith "/" = false := by
    rw [String.endsWith_eq_endsWith_toSlice, String.Slice.endsWith_string_eq_false_iff,
      String.copy_toSlice]
    decide
  have hlocation : Location.ofPath ["home"] "c.json" = ["home", "c.json"] := by
    simp only [Location.ofPath, hnames, hstart]
    rfl
  refine bind_eq_ok.mpr ⟨ofList ["home"] [], ?_, mapError_eq_ok.mpr ?_⟩
  · simp only [ofList, hlocation]
    rfl
  · simp only [store, ofList, locate, hnames, hstart, hfault, hend]
    rfl

end TurtleGrammar.Files
