import TurtleGrammar.Command.Run
import TurtleGrammar.Proofs.Config.Presets
import TurtleGrammar.Proofs.Files.NullCharacter
import TurtleGrammar.Proofs.Json.Digits
import TurtleGrammar.Proofs.Playback.Ticks

/-! The failures that no run reports, and what a request has met when it fails with one of them: a
blank in place of a path or a seed, a path with the null character, or a configuration with bytes
that are no text, a number that is too long or too large, a heading without a direction, or a text
that cannot be encoded. -/

namespace TurtleGrammar

/-- The failures that a run reports. -/
def Failure.IsForeseen : Failure → Prop
  | .refused _ => True
  | .file (.failed _ _) => True
  | .turtle .underflow => True
  | _ => False

namespace Command

/-- The preset and the file of which a request takes its configuration from one. -/
def Request.source? : Request → Option (Option String × Setting String)
  | .describe preset config => some (preset, config)
  | .draw [preset, _] .absent => some (some preset, .absent)
  | .draw _ .absent => none
  | .draw [_] config => some (none, config)
  | _ => none

/-- The file that a request writes. -/
def Request.output? : Request → Option String
  | .draw [_, output] .absent => some output
  | .draw _ .absent => none
  | .draw [output] _ => some output
  | .pick output _ => some output
  | _ => none

/-- A request takes its configuration from a file. -/
def Request.Opens (request : Request) (path : String) : Prop :=
  request.source? = some (none, .value path)

/-- A request takes its configuration from a file that holds a value. -/
def Request.Loads (request : Request) (files : Files) (v : Json.Value) : Prop :=
  ∃ path, request.Opens path ∧ Config.load files path = .ok v

/-- A surrogate stands in a text that a request shows, in the file of its configuration. -/
def Request.Holds (request : Request) (files : Files) (x : Text.Surrogate) : Prop :=
  ∃ v, request.Loads files v ∧ ∃ field ∈ Config.textFields, ∃ t,
    v.at? field = some (.string t) ∧ x ∈ Text.surrogates t

/-- The configuration of a source, and its turtle about to play. -/
def opened (files : Files) (preset : Option String) (config : Setting String) :
    Except Failure (Config × Playback) := do
  let c ← (loadConfig files preset config).result
  let p ← c.playback.result
  pure (c, p)

/-- A request has a turtle play a configuration. -/
def Request.Plays (request : Request) (files : Files) (p : Playback) : Prop :=
  ∃ preset config c, request.source? = some (preset, config) ∧
    opened files preset config = .ok (c, p)

/-- What a request has met that fails in a way that is not foreseen. -/
inductive Oversight (files : Files) (request : Request) : Failure → Prop
  /-- The path of the configuration is left blank. -/
  | blankPath (h : request.source? = some (none, .blank)) : Oversight files request .blankPath
  /-- The seed is left blank. -/
  | blankSeed (output : String) (h : request = .pick output .blank) :
    Oversight files request .blankSeed
  /-- The file of the configuration has the null character in its path. -/
  | nullInput (path : String) (hopens : request.Opens path) (h : '\u0000' ∈ path.toList) :
    Oversight files request (.file .nullCharacter)
  /-- The file that is written, or the working directory, has the null character in its path. -/
  | nullOutput (path : String) (houtput : request.output? = some path)
    (h : files.home.HasNull ∨ '\u0000' ∈ path.toList) :
    Oversight files request (.file .nullCharacter)
  /-- The bytes of the configuration are no text. -/
  | malformedText (path : String) (content : Content) (m : Text.Utf8.Malformed)
    (hopens : request.Opens path) (hread : files.read path = .ok content)
    (h : content.decode = .error m) : Oversight files request (.malformedText m)
  /-- The configuration holds more digits in a row than are read. -/
  | tooManyDigits (path : String) (content : Content) (text : List Char) (n : Nat)
    (hopens : request.Opens path) (hread : files.read path = .ok content)
    (htext : content.decode = .ok text)
    (h : Number.maxDigits < n ∧ Json.HasDigits n (Text.unifyBreaks text)) :
    Oversight files request (.tooManyDigits n)
  /-- A number field of the configuration holds an integer beyond the floating-point numbers. -/
  | numberTooLarge (v : Json.Value) (hloads : request.Loads files v)
    (hparse : (Config.parse v).result = .error .numberTooLarge) (h : Config.HasLarge v) :
    Oversight files request .numberTooLarge
  /-- After some ticks the turtle has an infinite heading, and a symbol that moves it is next. -/
  | noDirection (p : Playback) (k : Nat) (hplays : request.Plays files p)
    (hreplay : p.replay.failure = some .noDirection) (hrun : (p.run k).failure = none)
    (hmoves : (p.run k).final.system.peek.moves = true)
    (h : (p.run k).final.turtle.heading.isInf = true) :
    Oversight files request (.turtle .noDirection)
  /-- A text of the configuration that the drawing shows holds a surrogate. -/
  | unencodable (u : Text.Utf8.Unencodable) (h : request.Holds files u.first) :
    Oversight files request (.unencodable u)

/-- A failure is foreseen or an oversight. -/
def Explained (files : Files) (request : Request) (f : Failure) : Prop :=
  f.IsForeseen ∨ Oversight files request f

variable {files : Files} {request : Request} {preset : Option String} {config : Setting String}
  {path output : String} {c : Config} {p : Playback} {f : Failure} {n : Nat} {e : TurtleError}

theorem explained_of_refused (h : ∃ r, f = .refused r) : Explained files request f := by
  obtain ⟨r, rfl⟩ := h
  exact .inl True.intro

/-! ### The configuration -/

theorem read_ends (hopens : request.Opens path) :
    Ends (fun e => Explained files request (.file e)) (fun _ => True) (files.read path) := by
  cases hread : files.read path with
  | ok content => exact True.intro
  | error e =>
    cases e with
    | failed cause wrong => exact .inl True.intro
    | nullCharacter => exact .inr (.nullInput path hopens (Files.read_eq_null_iff.mp hread))

theorem load_ends (hopens : request.Opens path) :
    Ends (Explained files request) (fun _ => True) (Config.load files path) := by
  refine Ends.bind (Ends.mapError (read_ends hopens).with_eq) fun content ⟨_, hread⟩ => ?_
  refine Ends.bind (Q := fun text => content.decode = .ok text) ?_ fun text htext => ?_
  · cases hdecode : content.decode with
    | ok text => rfl
    | error m => exact .inr (.malformedText path content m hopens hread hdecode)
  · cases hjson : Json.read (Text.unifyBreaks text) with
    | ok v => exact True.intro
    | error fault =>
      cases fault with
      | malformed e => exact .inl True.intro
      | tooManyDigits n =>
        have hlong := Json.hasDigits_of_read hjson
        exact .inr (.tooManyDigits path content text n hopens hread htext hlong)

/-- A configuration can be drawn on its sheet, and the surrogates in the texts of the sheet come
from the file of the configuration. -/
structure FromSource (files : Files) (request : Request) (c : Config) : Prop where
  precision : 0 ≤ c.sheet.precision ∧ c.sheet.precision ≤ 10
  texts : ∀ t ∈ c.sheet.texts, ∀ x ∈ Text.surrogates t, request.Holds files x

theorem parse_explained {v : Json.Value}
    (hlarge : (Config.parse v).result = .error .numberTooLarge → Config.HasLarge v →
      Explained files request .numberTooLarge)
    (htexts : ∀ field ∈ Config.textFields, ∀ t, v.at? field = some (.string t) →
      ∀ x ∈ Text.surrogates t, request.Holds files x) :
    Ends (Explained files request) (FromSource files request) (Config.parse v).result := by
  have hends := Config.parse_ends v
  cases hparse : (Config.parse v).result with
  | error f =>
    rw [hparse] at hends
    cases f with
    | refused r => exact .inl True.intro
    | numberTooLarge => exact hlarge hparse hends
    | _ => exact hends.elim
  | ok c =>
    rw [hparse] at hends
    refine ⟨hends.precision, fun t ht x hx => ?_⟩
    rcases hends.texts t ht with ⟨s, rfl⟩ | ⟨field, hfield, hat⟩
    · rw [Text.surrogates_ofString] at hx
      cases hx
    · exact htexts field hfield t hat x hx

theorem loadConfig_ends (hsource : request.source? = some (preset, config)) :
    Ends (Explained files request) (FromSource files request)
      (loadConfig files preset config).result := by
  cases preset with
  | none =>
    cases config with
    | absent => exact .inl True.intro
    | blank => exact .inr (.blankPath hsource)
    | value path =>
      rw [loadConfig, Outcome.result_bind]
      refine Ends.bind (load_ends hsource).with_eq fun v ⟨_, hv⟩ => ?_
      have hloads : request.Loads files v := ⟨path, hsource, hv⟩
      exact parse_explained (fun hparse h => .inr (.numberTooLarge v hloads hparse h))
        fun field hfield t hat x hx => ⟨v, hloads, field, hfield, t, hat, hx⟩
  | some name =>
    cases config with
    | absent =>
      rw [loadConfig, Outcome.result_bind]
      refine Ends.bind ((Config.ofPreset_ends name).mono (fun f => explained_of_refused)
        fun _ h => h) ?_
      rintro v ⟨d, rfl, hname⟩
      refine parse_explained (fun _ h => absurd h (Config.not_hasLarge_ofDefinition d))
        fun field hfield t hat x hx => ?_
      rw [Config.eq_name_of_at_ofDefinition hfield hat, hname] at hx
      cases hx
    | blank => exact .inl True.intro
    | value path => exact .inl True.intro

theorem opened_ends (hsource : request.source? = some (preset, config)) :
    Ends (Explained files request) (fun r => FromSource files request r.1)
      (opened files preset config) := by
  refine Ends.bind (loadConfig_ends hsource) fun c hc => ?_
  refine Ends.bind (Q := fun _ => True) ?_ fun p _ => hc
  rw [Config.playback, Outcome.result_bind]
  exact Ends.bind (Ends.mapError (x := (LSystem.build c.definition).result)
    (Ends.of_forall fun r => explained_of_refused ⟨r, rfl⟩)) fun _ _ => True.intro

theorem replay_explained (hplays : request.Plays files p) (h : p.replay.failure = some e) :
    Explained files request (.turtle e) := by
  -- The ticks before the one that fails are a run of their own, which shows where the turtle was.
  rcases p.run_cases p.system.remaining with hnone | ⟨k, -, e', hnone, hfail, hrun⟩
  · cases hnone.symm.trans h
  · have he : e' = e := by
      rw [Playback.replay, hrun] at h
      exact Option.some.inj h
    subst he
    rcases Turtle.update_eq_error_iff.mp (Playback.tick_eq_error_iff.mp hfail) with
      ⟨rfl, -, -⟩ | ⟨rfl, hmoves, hinf⟩
    · exact .inl True.intro
    · exact .inr (.noDirection p k hplays h hnone hmoves hinf)

/-! ### The commands -/

theorem result_open (files : Files) (preset : Option String) (config : Setting String) :
    ((do let c ← loadConfig files preset config; pure (c, ← c.playback) :
      Outcome Failure (Config × Playback))).result = opened files preset config := by
  simp only [Outcome.result_bind]
  rfl

theorem describe_failure (files : Files) (preset : Option String) (config : Setting String) :
    (describe files preset config).failure =
      match opened files preset config with
      | .error f => some f
      | .ok (_, p) => p.replay.failure.map .turtle := by
  unfold describe
  simp only [result_open]
  cases opened files preset config with
  | error f => rfl
  | ok r =>
    obtain ⟨c, p⟩ := r
    cases hfail : p.replay.failure <;> simp [hfail]

theorem drawing_result (files : Files) (preset : Option String) (config : Setting String) :
    (drawing files preset config).result =
      opened files preset config >>= fun r =>
        match r.2.replay.failure with
        | some e => .error (.turtle e)
        | none => r.1.sheet.render r.2.replay.segments.toList := by
  simp only [drawing, Outcome.result_bind, opened, bind_assoc, pure_bind]
  refine bind_congr fun c => bind_congr fun p => ?_
  cases hfail : p.replay.failure <;> rfl

theorem describe_explained (h : (describe files preset config).failure = some f) :
    Explained files (.describe preset config) f := by
  have hends : Ends (Explained files (.describe preset config))
      (fun r => FromSource files (.describe preset config) r.1) (opened files preset config) :=
    opened_ends rfl
  rw [describe_failure] at h
  cases hopened : opened files preset config with
  | error f' =>
    rw [hopened] at hends h
    cases h
    exact hends
  | ok r =>
    obtain ⟨c, p⟩ := r
    rw [hopened] at h
    obtain ⟨e, he, rfl⟩ := Option.map_eq_some_iff.mp h
    exact replay_explained ⟨preset, config, c, rfl, hopened⟩ he

theorem drawing_ends (hsource : request.source? = some (preset, config)) :
    Ends (Explained files request)
      (fun d => ∀ piece ∈ d, ∀ x ∈ Text.surrogates piece, request.Holds files x)
      (drawing files preset config).result := by
  rw [drawing_result]
  refine Ends.bind (opened_ends hsource).with_eq fun r ⟨hfrom, hopened⟩ => ?_
  split
  · next e hfail => exact replay_explained ⟨preset, config, r.1, hsource, hopened⟩ hfail
  · refine (Svg.Sheet.render_ends hfrom.precision _).mono (fun f => explained_of_refused) ?_
    intro d hd piece hpiece x hx
    obtain ⟨t, ht, hxt⟩ := hd piece hpiece x hx
    exact hfrom.texts t ht x hxt

theorem writing_explained {document : Outcome Failure Document} {lines : List String}
    (houtput : request.output? = some output)
    (hdocument : Ends (Explained files request)
      (fun d => ∀ piece ∈ d, ∀ x ∈ Text.surrogates piece, request.Holds files x) document.result)
    (h : (Effect.writing files output document lines).failure = some f) :
    Explained files request f := by
  unfold Effect.writing at h
  split at h
  · next f' hresult =>
    rw [hresult] at hdocument
    cases h
    exact hdocument
  · next d hresult =>
    rw [hresult] at hdocument
    rcases Files.save_failure h with ⟨e, rfl, hnull⟩ | ⟨u, rfl, piece, hpiece, hu⟩
    · cases e with
      | failed cause wrong => exact .inl True.intro
      | nullCharacter => exact .inr (.nullOutput output houtput (hnull rfl))
    · exact .inr (.unencodable u (hdocument piece hpiece _ hu))

theorem pick_explained {given : Int} {setting : Setting Int}
    (h : (pick files output given).failure = some f) :
    Explained files (.pick output setting) f := by
  refine writing_explained rfl ?_ h
  rw [Outcome.result_bind]
  refine Ends.bind ((Config.ofPreset_ends _).mono (fun f => explained_of_refused) fun _ h => h) ?_
  rintro v ⟨d, rfl, hname⟩ piece hpiece x hx
  rw [Json.plain_document (Config.isPlain_ofDefinition hname) piece hpiece] at hx
  cases hx

/-- Whatever a request fails with is foreseen or an oversight. -/
theorem perform_explained {seed : Int} (h : (request.perform files seed).failure = some f) :
    Explained files request f := by
  unfold Request.perform at h
  split at h
  · cases h
  · exact describe_explained h
  · exact writing_explained rfl (drawing_ends rfl) h
  · cases h
    exact .inl True.intro
  · next output config hconfig =>
    cases config with
    | absent => exact absurd rfl hconfig
    | _ => exact writing_explained rfl (drawing_ends rfl) h
  · cases h
    exact .inl True.intro
  · exact pick_explained h
  · exact pick_explained h
  · next output =>
    cases h
    exact .inr (.blankSeed output rfl)

/-! ### What is certain to go wrong -/

theorem perform_of_source (h : request.source? = some (preset, config)) :
    request = .describe preset config ∨
      ∃ output, ∀ seed, request.perform files seed = draw files preset config output := by
  unfold Request.source? at h
  split at h
  · cases h
    exact .inl rfl
  · next output =>
    cases h
    exact .inr ⟨output, fun _ => rfl⟩
  · cases h
  · next output given hgiven =>
    cases h
    cases config with
    | absent => exact absurd rfl hgiven
    | _ => exact .inr ⟨output, fun _ => rfl⟩
  · cases h

theorem failure_writing_of_error {document : Outcome Failure Document} {lines : List String}
    (h : document.result = .error f) :
    (Effect.writing files output document lines).failure = some f := by
  simp only [Effect.writing, h]

/-- A configuration that cannot be had is what a request fails with. -/
theorem perform_of_unloaded {seed : Int} (hsource : request.source? = some (preset, config))
    (h : (loadConfig files preset config).result = .error f) :
    (request.perform files seed).failure = some f := by
  have hopened : opened files preset config = .error f := by
    simp only [opened, h, bind, Except.bind]
  rcases perform_of_source hsource with rfl | ⟨output, hdraw⟩
  · rw [Request.perform, describe_failure, hopened]
  · rw [hdraw, draw, failure_writing_of_error]
    rw [drawing_result, hopened]
    rfl

/-- An error of the turtle is what a request fails with that has its configuration played. -/
theorem perform_of_replay {seed : Int} (hplays : request.Plays files p)
    (h : p.replay.failure = some e) :
    (request.perform files seed).failure = some (.turtle e) := by
  obtain ⟨preset, config, c, hsource, hopened⟩ := hplays
  rcases perform_of_source hsource with rfl | ⟨output, hdraw⟩
  · rw [Request.perform, describe_failure, hopened]
    simp only [h, Option.map_some]
  · rw [hdraw, draw, failure_writing_of_error]
    rw [drawing_result, hopened]
    simp only [h, bind, Except.bind]

end Command

end TurtleGrammar
