import TurtleGrammar.Proofs.Command.Arguments
import TurtleGrammar.Proofs.Command.Oversights

/-! How runs end. A run ends with code 0, or it tells what is wrong and ends with the code for that,
or it crashes, and then its request has met an oversight. In particular a run crashes whenever the
configuration that it takes from a file is no text, or has an integer that is too large where a
number is read, or leads the turtle along an infinite heading. -/

namespace TurtleGrammar.Command

/-- The kinds of mistakes that a run tells, each with its exit code. -/
def mistakes : List (String × Nat) :=
  [("error", 2), ("Config error", 2), ("Parse error", 2), ("File error", 2),
    ("Malformed L-system", 3)]

/-- A run ends with the code of a mistake, of which the last line of the error output gives the kind
and the reason. -/
def Report.Tells (r : Report) (code : Nat) (reason : String) : Prop :=
  r.ending = .exit code ∧ ∃ before kind, (kind, code) ∈ mistakes ∧
    r.errors = before ++ kind ++ ": " ++ reason ++ "\n"

/-- A run ends with code 0, or it tells of a mistake. -/
def Report.IsOrderly (r : Report) : Prop := r.ending = .exit 0 ∨ ∃ code reason, r.Tells code reason

/-- The exit code for a failure that a run reports. -/
def codeOf (f : Failure) : Nat := if f = .turtle .underflow then 3 else 2

variable {files : Files} {seed : Int} {args : List String} {f : Failure} {path : String}

/-! ### Reports -/

theorem endingOf_of_foreseen (h : f.IsForeseen) :
    ∃ kind, (kind, codeOf f) ∈ mistakes ∧
      endingOf f = (.exit (codeOf f), kind ++ ": " ++ f.message ++ "\n") := by
  cases f with
  | refused r =>
    cases r with
    | parse e => exact ⟨"Parse error", by simp [codeOf, mistakes], rfl⟩
    | _ => exact ⟨"Config error", by simp [codeOf, mistakes], rfl⟩
  | turtle e =>
    cases e with
    | underflow => exact ⟨"Malformed L-system", by simp [codeOf, mistakes], rfl⟩
    | noDirection => exact h.elim
  | file e =>
    cases e with
    | failed cause wrong => exact ⟨"File error", by simp [codeOf, mistakes], rfl⟩
    | nullCharacter => exact h.elim
  | _ => exact h.elim

theorem endingOf_of_not_foreseen (h : ¬f.IsForeseen) : endingOf f = (.crash f, "") := by
  cases f with
  | refused r => exact absurd True.intro h
  | turtle e =>
    cases e with
    | underflow => exact absurd True.intro h
    | noDirection => rfl
  | file e =>
    cases e with
    | failed cause wrong => exact absurd True.intro h
    | nullCharacter => rfl
  | _ => rfl

theorem endingOf_exit_iff {code : Nat} :
    (endingOf f).1 = .exit code ↔ f.IsForeseen ∧ codeOf f = code := by
  by_cases hf : f.IsForeseen
  · obtain ⟨kind, -, heq⟩ := endingOf_of_foreseen hf
    simp [heq, hf]
  · simp [endingOf_of_not_foreseen hf, hf]

theorem report_of_failure {d : Effect} (verbose : Bool) (h : d.failure = some f) :
    (d.report verbose).ending = (endingOf f).1 ∧
      ∃ before, (d.report verbose).errors = before ++ (endingOf f).2 := by
  simp only [Effect.report, h]
  exact ⟨True.intro, _, rfl⟩

theorem report_tells {d : Effect} (verbose : Bool) (h : d.failure = some f) (hf : f.IsForeseen) :
    (d.report verbose).Tells (codeOf f) f.message := by
  obtain ⟨hending, before, herrors⟩ := report_of_failure verbose h
  obtain ⟨kind, hkind, heq⟩ := endingOf_of_foreseen hf
  rw [heq] at hending herrors
  refine ⟨hending, before, kind, hkind, ?_⟩
  simp only [herrors, String.append_assoc]

theorem report_crash {d : Effect} (verbose : Bool) (h : d.failure = some f)
    (hf : ¬f.IsForeseen) : (d.report verbose).ending = .crash f := by
  rw [(report_of_failure verbose h).1, endingOf_of_not_foreseen hf]

theorem not_isOrderly_of_crash {r : Report} (h : r.ending = .crash f) : ¬r.IsOrderly := by
  rintro (hzero | ⟨code, reason, hcode, -⟩)
  · cases h.symm.trans hzero
  · cases h.symm.trans hcode

/-! ### Runs -/

theorem run_cases (files : Files) (seed : Int) (args : List String) :
    (∃ text, readRequest args = .help text ∧ (run files seed args).ending = .exit 0) ∨
    (∃ m e, readRequest args = .misuse m e ∧ (run files seed args).Tells 2 e.message) ∨
    ∃ verbose request, readRequest args = .read (verbose, request) ∧
      ((request.perform files seed).failure = none ∧ (run files seed args).ending = .exit 0 ∨
        ∃ f, (request.perform files seed).failure = some f ∧
          (f.IsForeseen ∧ (run files seed args).Tells (codeOf f) f.message ∨
            ¬f.IsForeseen ∧ (run files seed args).ending = .crash f)) := by
  cases hread : readRequest args with
  | help text => exact .inl ⟨text, rfl, by rw [run, hread]⟩
  | misuse m e =>
    refine .inr (.inl ⟨m, e, rfl, by rw [run, hread], m.usageLine ++ m.program ++ ": ", "error",
      by simp [mistakes], ?_⟩)
    rw [run, hread]
    simp only [Manual.complaint, String.append_assoc]
    rfl
  | read r =>
    obtain ⟨verbose, request⟩ := r
    have hrun : run files seed args = (request.perform files seed).report verbose := by
      rw [run, hread]
    refine .inr (.inr ⟨verbose, request, rfl, ?_⟩)
    rw [hrun]
    cases hd : (request.perform files seed).failure with
    | none => exact .inl ⟨rfl, by simp only [Effect.report, hd]⟩
    | some f =>
      refine .inr ⟨f, rfl, ?_⟩
      by_cases hf : f.IsForeseen
      · exact .inl ⟨hf, report_tells verbose hd hf⟩
      · exact .inr ⟨hf, report_crash verbose hd hf⟩

theorem run_crash_iff :
    (run files seed args).ending = .crash f ↔
      ∃ verbose request, readRequest args = .read (verbose, request) ∧
        (request.perform files seed).failure = some f ∧ ¬f.IsForeseen := by
  constructor
  · intro h
    rcases run_cases files seed args with ⟨text, -, hzero⟩ | ⟨m, e, -, hcode, -⟩ |
      ⟨verbose, request, hread, ⟨-, hzero⟩ | ⟨f', hf, ⟨-, hcode, -⟩ | ⟨hnot, hcrash⟩⟩⟩
    · cases h.symm.trans hzero
    · cases h.symm.trans hcode
    · cases h.symm.trans hzero
    · cases h.symm.trans hcode
    · cases h.symm.trans hcrash
      exact ⟨verbose, request, hread, hf, hnot⟩
  · rintro ⟨verbose, request, hread, hf, hnot⟩
    rw [run, hread]
    exact report_crash verbose hf hnot

theorem run_crash_oversight (h : (run files seed args).ending = .crash f) :
    ∃ verbose request, readRequest args = .read (verbose, request) ∧
      Oversight files request f := by
  obtain ⟨verbose, request, hread, hf, hforeseen⟩ := run_crash_iff.mp h
  exact ⟨verbose, request, hread, (perform_explained hf).resolve_left hforeseen⟩

theorem loadConfig_file (files : Files) (path : String) :
    (loadConfig files none (.value path)).result =
      Config.load files path >>= fun v => (Config.parse v).result := by
  rw [loadConfig, Outcome.result_bind]
  rfl

theorem loadConfig_of_malformedText {content : Content} {m : Text.Utf8.Malformed}
    (hread : files.read path = .ok content) (h : content.decode = .error m) :
    (loadConfig files none (.value path)).result = .error (.malformedText m) := by
  simp only [loadConfig_file, Config.load, hread, h, Except.mapError, bind, Except.bind]

theorem loadConfig_of_value {v : Json.Value} (hload : Config.load files path = .ok v)
    (h : (Config.parse v).result = .error f) :
    (loadConfig files none (.value path)).result = .error f := by
  simp only [loadConfig_file, hload, h, bind, Except.bind]

/-! ### A single file -/

theorem ofList_sole_config (c : Content) :
    Files.ofList ["home"] [("c.json", c)] = ⟨["home"], [(["home", "c.json"], c)], []⟩ := by
  have hnames : Location.namesOf "c.json" = ["c.json"] := by decide
  have hstart : Location.startOf ["home"] "c.json" = ["home"] := by simp [Location.startOf]
  simp only [Files.ofList, List.map_cons, Location.ofPath, hnames, hstart]
  rfl

theorem read_sole_config (c : Content) :
    (Files.ofList ["home"] [("c.json", c)]).read "c.json" = .ok c := by
  have hnames : Location.namesOf "c.json" = ["c.json"] := by decide
  have hstart : Location.startOf ["home"] "c.json" = ["home"] := by simp [Location.startOf]
  have hfault : Files.pathFault? "c.json" = none := by
    have hshort : Files.isLongPath "c.json" = false := by decide
    simp [Files.pathFault?, hshort]
  have hend : "c.json".endsWith "/" = false := by
    rw [String.endsWith_eq_endsWith_toSlice, String.Slice.endsWith_string_eq_false_iff,
      String.copy_toSlice]
    decide
  simp only [ofList_sole_config, Files.read, Files.locate, hnames, hstart, hfault, hend]
  rfl

/-! ### All endings -/

/-- How a run ends by what it is asked for, and when it crashes because of what its configuration
holds. -/
theorem run_orderly_or_oversight (files : Files) (seed : Int) (args : List String) :
    ((∃ text, readRequest args = .help text ∧ (run files seed args).ending = .exit 0) ∨
      (∃ m e, readRequest args = .misuse m e ∧ (run files seed args).Tells 2 e.message) ∨
      ∃ verbose request, readRequest args = .read (verbose, request) ∧
        ((request.perform files seed).failure = none ∧ (run files seed args).ending = .exit 0 ∨
          ∃ f, (request.perform files seed).failure = some f ∧
            (f.IsForeseen ∧ (run files seed args).Tells (codeOf f) f.message ∨
              Oversight files request f ∧ (run files seed args).ending = .crash f))) ∧
    (∀ m, (run files seed args).ending = .crash (.malformedText m) ↔
      ∃ verbose request path content, readRequest args = .read (verbose, request) ∧
        request.Opens path ∧ files.read path = .ok content ∧ content.decode = .error m) ∧
    ((run files seed args).ending = .crash .numberTooLarge ↔
      ∃ verbose request v, readRequest args = .read (verbose, request) ∧
        request.Loads files v ∧ (Config.parse v).result = .error .numberTooLarge) ∧
    ((run files seed args).ending = .crash (.turtle .noDirection) ↔
      ∃ verbose request p, readRequest args = .read (verbose, request) ∧
        request.Plays files p ∧ p.replay.failure = some .noDirection) := by
  -- From a crash to its cause an oversight tells what was met. From a cause to the crash the
  -- failure is followed from where it arises to the end of the run.
  refine ⟨?_, fun m => ⟨fun h => ?_, ?_⟩, ⟨fun h => ?_, ?_⟩, ⟨fun h => ?_, ?_⟩⟩
  · refine (run_cases files seed args).imp_right (Or.imp_right ?_)
    rintro ⟨verbose, request, hread, hended⟩
    refine ⟨verbose, request, hread, hended.imp_right ?_⟩
    rintro ⟨f, hf, hended⟩
    exact ⟨f, hf, hended.imp_right (And.imp_left (perform_explained hf).resolve_left)⟩
  · obtain ⟨verbose, request, hread, hmet⟩ := run_crash_oversight h
    cases hmet with
    | malformedText path content _ hopens hcontent h =>
      exact ⟨verbose, request, path, content, hread, hopens, hcontent, h⟩
  · rintro ⟨verbose, request, path, content, hread, hopens, hcontent, h⟩
    exact run_crash_iff.mpr ⟨verbose, request, hread,
      perform_of_unloaded hopens (loadConfig_of_malformedText hcontent h), id⟩
  · obtain ⟨verbose, request, hread, hmet⟩ := run_crash_oversight h
    cases hmet with
    | numberTooLarge v hloads hparse _ => exact ⟨verbose, request, v, hread, hloads, hparse⟩
  · rintro ⟨verbose, request, v, hread, ⟨path, hopens, hload⟩, h⟩
    exact run_crash_iff.mpr ⟨verbose, request, hread,
      perform_of_unloaded hopens (loadConfig_of_value hload h), id⟩
  · obtain ⟨verbose, request, hread, hmet⟩ := run_crash_oversight h
    cases hmet with
    | noDirection p k hplays hreplay _ _ _ => exact ⟨verbose, request, p, hread, hplays, hreplay⟩
  · rintro ⟨verbose, request, p, hread, hplays, h⟩
    exact run_crash_iff.mpr ⟨verbose, request, hread, perform_of_replay hplays h, id⟩

/-- A run crashes that is to show a configuration of one byte that starts no character. -/
theorem spoilt_config_crashes :
    let r := run (Files.ofList ["home"] [("c.json", .bytes [0xFF])]) 0
      ["show", "--config", "c.json"]
    r.ending = .crash (.malformedText ⟨.badStart, 0xFF, 0, 1⟩) ∧ ¬r.IsOrderly := by
  intro r
  have hdecode : (Content.bytes [0xFF]).decode = .error ⟨.badStart, 0xFF, 0, 1⟩ := by decide
  have hcrash : r.ending = .crash (.malformedText ⟨.badStart, 0xFF, 0, 1⟩) :=
    run_crash_iff.mpr ⟨false, _, readRequest_show_config (by simp),
      perform_of_unloaded rfl (loadConfig_of_malformedText (read_sole_config _) hdecode), id⟩
  exact ⟨hcrash, not_isOrderly_of_crash hcrash⟩

end TurtleGrammar.Command
