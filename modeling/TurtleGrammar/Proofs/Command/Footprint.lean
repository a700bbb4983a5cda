import TurtleGrammar.Proofs.Command.Figures
import TurtleGrammar.Proofs.Files.Writing

/-! What a run leaves among the files. A request writes at most one file, once everything else has
succeeded, so a run that does not end with code 0 leaves all files as they were, and one that does
changes at most the file it was told to write. -/

namespace TurtleGrammar

theorem Json.Value.IsPlain.at {v w : Json.Value} {path : List String} (h : v.IsPlain)
    (hw : v.at? path = some w) : w.IsPlain := by
  induction path generalizing v with
  | nil =>
    cases hw
    exact h
  | cons name path ih =>
    cases v with
    | object members =>
      rw [Json.Value.at?, Option.bind_eq_some_iff] at hw
      obtain ⟨x, hx, hw⟩ := hw
      exact ih (Json.plain_of_lookup h hx) hw
    | _ => cases hw

namespace Command

variable {files : Files} {seed : Int} {args : List String} {request : Request} {f : Failure}
  {output : String}

/-- The configurations that a request loads have no surrogate in their strings. -/
def Request.IsPlain (request : Request) (files : Files) : Prop :=
  ∀ v, request.Loads files v → v.IsPlain

/-! ### Requests -/

theorem not_unencodable {u : Text.Utf8.Unencodable} (hplain : request.IsPlain files) :
    (request.perform files seed).failure ≠ some (.unencodable u) := by
  intro h
  rcases perform_explained h with hforeseen | hmet
  · exact hforeseen
  · cases hmet with
    | unencodable _ hholds =>
      obtain ⟨v, hloads, field, -, t, hat, hu⟩ := hholds
      have ht := (hplain v hloads).at hat
      rw [Json.Value.IsPlain] at ht
      rw [ht] at hu
      cases hu

theorem files_writing {document : Outcome Failure Document} {lines : List String} {d : Effect}
    (hd : Effect.writing files output document lines = d) :
    (d.failure = none → ∃ c, d.files.files =
      Files.put (Location.ofPath files.home output) c files.files) ∧
    (∀ f, d.failure = some f → (∀ u, f ≠ .unencodable u) → d.files.files = files.files) := by
  subst hd
  unfold Effect.writing
  cases document.result with
  | error f => exact ⟨nofun, fun _ _ _ => rfl⟩
  | ok text =>
    dsimp only
    rcases files.save_cases output text with
      ⟨made, e, hsave, hadds⟩ | ⟨after, hsave, hput⟩
    · rw [hsave]
      exact ⟨nofun, fun _ _ _ => hadds.files⟩
    · -- once the file is open, only a text that cannot be encoded is a failure
      rw [hsave]
      refine ⟨fun _ => ⟨_, hput⟩, fun f hf hnot => ?_⟩
      obtain ⟨u, -, rfl⟩ := Option.map_eq_some_iff.mp hf
      exact absurd rfl (hnot u)

theorem files_describe (files : Files) (preset : Option String) (config : Setting String) :
    (describe files preset config).files = files := by
  unfold describe
  simp only
  split
  · rfl
  · split <;> rfl

/-- A request writes the file of its output, or does nothing to the files. -/
theorem perform_cases (files : Files) (seed : Int) (request : Request) :
    (∃ output document lines, request.output? = some output ∧
      request.perform files seed = Effect.writing files output document lines) ∨
    (request.perform files seed).files = files ∧
      (request.output? = none ∨ (request.perform files seed).failure ≠ none) := by
  unfold Request.perform
  split
  · exact .inr ⟨rfl, .inl rfl⟩
  · exact .inr ⟨files_describe _ _ _, .inl rfl⟩
  · exact .inl ⟨_, _, _, rfl, rfl⟩
  · exact .inr ⟨rfl, .inr nofun⟩
  · next output config hconfig =>
    cases config with
    | absent => exact absurd rfl hconfig
    | _ => exact .inl ⟨_, _, _, rfl, rfl⟩
  · exact .inr ⟨rfl, .inr nofun⟩
  · exact .inl ⟨_, _, _, rfl, rfl⟩
  · exact .inl ⟨_, _, _, rfl, rfl⟩
  · exact .inr ⟨rfl, .inr nofun⟩

theorem perform_keeps (hplain : request.IsPlain files)
    (h : request.output? = none ∨ (request.perform files seed).failure ≠ none) :
    (request.perform files seed).files.files = files.files := by
  rcases perform_cases files seed request with ⟨output, document, lines, houtput, hd⟩ | ⟨hfiles, -⟩
  · have hfail := h.resolve_left (by simp [houtput])
    obtain ⟨f, hf⟩ := Option.ne_none_iff_exists'.mp hfail
    refine (files_writing hd.symm).2 f hf fun u hu => ?_
    exact not_unencodable hplain (hu ▸ hf)
  · rw [hfiles]

theorem perform_stores (houtput : request.output? = some output)
    (h : (request.perform files seed).failure = none) :
    ∃ c, (request.perform files seed).files.files =
      Files.put (Location.ofPath files.home output) c files.files := by
  rcases perform_cases files seed request with ⟨output', document, lines, houtput', hd⟩ | ⟨-, hno⟩
  · cases houtput.symm.trans houtput'
    exact (files_writing hd.symm).1 h
  · rcases hno with hnone | hfail
    · cases houtput.symm.trans hnone
    · exact absurd h hfail

/-! ### Runs -/

theorem files_report (d : Effect) (verbose : Bool) : (d.report verbose).files = d.files := by
  unfold Effect.report
  simp only
  split <;> rfl

theorem exit_zero_iff {d : Effect} (verbose : Bool) :
    (d.report verbose).ending = .exit 0 ↔ d.failure = none := by
  refine ⟨fun h => ?_, fun h => (exit_zero_of_success verbose h).1⟩
  cases hfail : d.failure with
  | none => rfl
  | some f =>
    rw [(report_of_failure verbose hfail).1, endingOf_exit_iff] at h
    have hcode := h.2
    unfold codeOf at hcode
    split at hcode <;> cases hcode

/-- A run whose configuration has no surrogates in its strings: if it does not end with code 0, no
file is there that was not, and none has changed. If it does, that holds too where the request
writes no file, and else of every file but the one at the location that the path of its output names,
which is there. -/
theorem run_changes_output_only (files : Files) (seed : Int) (args : List String)
    (hplain : ∀ verbose request, readRequest args = .read (verbose, request) →
      request.IsPlain files) :
    let r := run files seed args
    (r.ending ≠ .exit 0 → ∀ l, r.files.files.lookup l = files.files.lookup l) ∧
    (r.ending = .exit 0 →
      ((∀ verbose request, readRequest args = .read (verbose, request) → request.output? = none) →
        ∀ l, r.files.files.lookup l = files.files.lookup l) ∧
      ∀ verbose request output, readRequest args = .read (verbose, request) →
        request.output? = some output →
        let target := Location.ofPath files.home output
        (∃ c, r.files.files.lookup target = some c) ∧
        ∀ l ≠ target, r.files.files.lookup l = files.files.lookup l) := by
  intro r
  cases hread : readRequest args with
  | help text =>
    have hrun : r.files = files := by
      show (run files seed args).files = files
      rw [run, hread]
    rw [hrun]
    refine ⟨fun _ _ => rfl, fun _ => ⟨fun _ _ => rfl, fun _ _ _ h => ?_⟩⟩
    cases h
  | misuse m e =>
    have hrun : r.files = files := by
      show (run files seed args).files = files
      rw [run, hread]
    rw [hrun]
    refine ⟨fun _ _ => rfl, fun _ => ⟨fun _ _ => rfl, fun _ _ _ h => ?_⟩⟩
    cases h
  | read result =>
    obtain ⟨verbose, request⟩ := result
    have hrun : r = (request.perform files seed).report verbose := by
      show run files seed args = _
      rw [run, hread]
    have hplain' := hplain verbose request hread
    rw [hrun, files_report, ne_eq, exit_zero_iff]
    refine ⟨fun hfail l => ?_, fun hdone => ⟨fun hnone l => ?_, ?_⟩⟩
    · rw [perform_keeps hplain' (.inr hfail)]
    · rw [perform_keeps hplain' (.inl (hnone verbose request rfl))]
    · intro verbose' request' output hsame houtput target
      cases hsame
      obtain ⟨c, hput⟩ := perform_stores houtput hdone
      rw [hput]
      refine ⟨⟨c, by rw [Files.lookup_put, if_pos rfl]⟩, fun l hl => ?_⟩
      rw [Files.lookup_put, if_neg hl]

/-- A drawing that fails for a pop without a push leaves the file that it was to replace, which is
that of the configuration itself. -/
theorem failed_drawing_keeps_file :
    let content := Content.text "\x7b\"axiom\": \"F]\"\x7d"
    let files := Files.ofList ["home"] [("c.json", content)]
    let args := ["render", "--config", "c.json", "c.json"]
    let request : Request := .draw ["c.json"] (.value "c.json")
    readRequest args = .read (false, request) ∧ request.IsPlain files ∧
      (∃ v, request.Loads files v) ∧ (run files 0 args).ending = .exit 3 ∧
      (run files 0 args).files.files.lookup ["home", "c.json"] = some content := by
  intro content files args request
  have hread : readRequest args = .read (false, request) :=
    readRequest_render_config (by simp) (by simp)
  have hload : ∃ v, Config.load files "c.json" = .ok v ∧ v.IsPlain := by
    have hplain : (Config.load files "c.json").toOption.any (fun v => decide v.IsPlain) = true := by
      rw [Config.load, read_sole_config]
      decide +kernel
    cases hv : Config.load files "c.json" with
    | error f => simp [hv, Except.toOption] at hplain
    | ok v => exact ⟨v, rfl, by simpa [hv, Except.toOption] using hplain⟩
  obtain ⟨v, hv, hplain⟩ := hload
  have hrequest : request.IsPlain files := by
    rintro w ⟨path, hopens, hw⟩
    cases hopens
    cases hv.symm.trans hw
    exact hplain
  have hreplay : (opened files none (.value "c.json")).toOption.map (fun r => r.2.replay.failure) =
      some (some .underflow) := by
    rw [opened, loadConfig_file, Config.load, read_sole_config]
    decide +kernel
  have hthree : (run files 0 args).ending = .exit 3 := by
    cases hopened : opened files none (.value "c.json") with
    | error f => simp [hopened, Except.toOption] at hreplay
    | ok r =>
      obtain ⟨c, p⟩ := r
      have hfail : p.replay.failure = some .underflow := by
        simpa [hopened, Except.toOption] using hreplay
      have hplays : request.Plays files p := ⟨none, .value "c.json", c, rfl, hopened⟩
      rw [run, hread]
      exact (exit_three_iff false).mpr (perform_of_replay hplays hfail)
  obtain ⟨hkeeps, -⟩ := run_changes_output_only files 0 args fun _ _ h => by
    cases hread.symm.trans h
    exact hrequest
  have hlookup := hkeeps (by simp [hthree]) ["home", "c.json"]
  refine ⟨hread, hrequest, ⟨v, "c.json", rfl, hv⟩, hthree, hlookup.trans ?_⟩
  show (Files.ofList ["home"] [("c.json", content)]).files.lookup ["home", "c.json"] = some content
  rw [ofList_sole_config]
  rfl

end Command

end TurtleGrammar
