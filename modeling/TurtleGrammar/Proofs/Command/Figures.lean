import TurtleGrammar.Proofs.Command.Ending
import TurtleGrammar.Proofs.Grammar.Rewriting
import TurtleGrammar.Proofs.Playback.Brackets

/-! The figures of a configuration that is shown. Some of them are counted in its word and the
others come from a replay, which ends with the code for unbalanced brackets exactly when some start
of the word has more pops than pushes. Where it does not, the figures agree. -/

namespace TurtleGrammar

/-! ### Replays -/

namespace Playback

variable {p : Playback}

/-- How a replay from the start of a word goes that meets no infinite heading. -/
theorem replay_cases (ht : p.turtle.depth = 1) (hcursor : p.system.cursor = 0)
    (hplain : .reset ∉ p.system.word.toList) (hd : p.replay.failure ≠ some .noDirection) :
    (∃ j, Word.Overdrawn (p.system.word.toList.take j)) ∧ p.replay.failure = some .underflow ∨
    (¬∃ j, Word.Overdrawn (p.system.word.toList.take j)) ∧ p.replay.failure = none ∧
      p.replay.final.turtle.depth + List.count .pop p.system.word.toList =
        1 + List.count .push p.system.word.toList ∧
      p.replay.segments.size = Word.count p.system.word.toList .forward := by
  obtain ⟨hturtle, hsegments⟩ := replay_eq_follow hcursor
  cases hfail : p.replay.failure with
  | none =>
    have hfollow : p.turtle.follow p.system.word.toList p.system.definition.delta =
        .ok p.replay.final.turtle := by
      rw [← hturtle, Run.turtle, hfail]
    obtain ⟨hcovered, hcount⟩ := Turtle.covered_zero_of_follow ht hplain hfollow
    refine .inr ⟨?_, rfl, ?_, ?_⟩
    · rintro ⟨j, hj⟩
      exact Word.covered_zero_iff.mp hcovered j hj
    · rw [Turtle.depth]
      omega
    · rw [← Turtle.length_drawn hfollow, ← hsegments, Array.length_toList]
  | some e =>
    have hfollow : p.turtle.follow p.system.word.toList p.system.definition.delta = .error e := by
      rw [← hturtle, Run.turtle, hfail]
    cases e with
    | noDirection => exact absurd hfail hd
    | underflow =>
      refine .inl ⟨?_, rfl⟩
      by_contra hno
      -- without such a start all pops are covered, and the word would be followed to its end
      have hcovered := Word.covered_zero_iff.mpr (not_exists.mp hno)
      obtain ⟨u, hu⟩ := Turtle.follow_of_covered hplain hcovered (Nat.zero_le _)
        (by rw [hfollow]; simp)
      cases hu.symm.trans hfollow

end Playback

/-! ### Configurations -/

namespace Config

variable {v : Json.Value} {c : Config}

/-- The definition of a configuration is one that texts give. -/
theorem definition_of_parse (h : (parse v).result = .ok c) :
    ∃ name initial rules n delta,
      (Definition.parse name initial rules n delta).result = .ok c.definition := by
  rw [parse, Outcome.result_bind] at h
  obtain ⟨members, -, h⟩ := bind_eq_ok.mp h
  rw [Outcome.result_bind] at h
  obtain ⟨d, hd, h⟩ := bind_eq_ok.mp h
  obtain ⟨turtle, -, h⟩ := bind_eq_ok.mp h
  obtain ⟨step, -, h⟩ := bind_eq_ok.mp h
  obtain ⟨departure, -, h⟩ := bind_eq_ok.mp h
  obtain ⟨sheet, -, h⟩ := bind_eq_ok.mp h
  cases h
  rw [parseDefinition, Outcome.result_bind] at hd
  obtain ⟨⟨name, initial, n, rules, angle⟩, -, hd⟩ := bind_eq_ok.mp hd
  exact ⟨name, initial, rules, n, _, mapError_eq_ok.mp hd⟩

/-- A configuration that was read is played by a new turtle, from the start of the word of its last
generation, which has no reset. -/
theorem playback_of_parse (h : (parse v).result = .ok c) :
    ∃ p, c.playback.result = .ok p ∧ c.definition.word = .ok p.system.word.toList ∧
      p.turtle.depth = 1 ∧ p.system.cursor = 0 ∧ .reset ∉ p.system.word.toList := by
  obtain ⟨name, initial, rules, n, delta, hd⟩ := definition_of_parse h
  obtain ⟨hn, w, r, -, -, hdefinition⟩ := Definition.parse_eq_ok.mp hd
  have hnonneg : 0 ≤ c.definition.generations := by rwa [hdefinition]
  let s : LSystem := ⟨c.definition, (c.definition.rules.rewrite c.definition.generations.toNat
    c.definition.initial).toArray, 0, Nat.zero_le _⟩
  have hbuild : (LSystem.build c.definition).result = .ok s :=
    LSystem.build_eq_ok.mpr ⟨hnonneg, rfl⟩
  have hconstruct : (LSystem.construct name initial rules n delta).result = .ok s := by
    rw [LSystem.construct, Outcome.result_bind]
    exact bind_eq_ok.mpr ⟨c.definition, hd, hbuild⟩
  have hturtle : c.playback.result = .ok ⟨Turtle.start c.step ⟨c.departure.x, c.departure.y⟩
      (Angle.ofDegrees c.departure.heading), s⟩ := by
    rw [playback, Outcome.result_bind]
    exact bind_eq_ok.mpr ⟨s, mapError_eq_ok.mpr hbuild, rfl⟩
  exact ⟨_, hturtle, Rules.generations_eq_ok.mpr ⟨hnonneg, rfl⟩, rfl, rfl,
    LSystem.reset_not_mem_construct hconstruct⟩

end Config

namespace Command

variable {files : Files} {seed : Int} {args : List String} {request : Request}
  {preset : Option String} {config : Setting String} {c : Config} {p : Playback} {w : Word}
  {e : TurtleError}

theorem parse_of_loadConfig (h : (loadConfig files preset config).result = .ok c) :
    ∃ v, (Config.parse v).result = .ok c := by
  cases preset with
  | none =>
    cases config with
    | absent => cases h
    | blank => cases h
    | value path =>
      rw [loadConfig_file] at h
      obtain ⟨v, -, h⟩ := bind_eq_ok.mp h
      exact ⟨v, h⟩
  | some name =>
    cases config with
    | absent =>
      rw [loadConfig, Outcome.result_bind] at h
      obtain ⟨v, -, h⟩ := bind_eq_ok.mp h
      exact ⟨v, h⟩
    | blank => cases h
    | value path => cases h

/-! ### Errors of the turtle -/

theorem error_of_writing {output : String} {document : Outcome Failure Document}
    {lines : List String}
    (h : (Effect.writing files output document lines).failure = some (.turtle e)) :
    document.result = .error (.turtle e) := by
  unfold Effect.writing at h
  split at h
  · next f hresult =>
    cases h
    exact hresult
  · next d hresult => rcases Files.save_failure h with ⟨_, hf, -⟩ | ⟨_, hf, -⟩ <;> cases hf

/-- A request that has a configuration played fails with an error of the turtle exactly when the
replay does. -/
theorem perform_turtle_iff (hplays : request.Plays files p) :
    (request.perform files seed).failure = some (.turtle e) ↔ p.replay.failure = some e := by
  refine ⟨fun h => ?_, perform_of_replay hplays⟩
  obtain ⟨preset, config, c, hsource, hopened⟩ := hplays
  rcases perform_of_source hsource with rfl | ⟨output, hdraw⟩
  · rw [Request.perform, describe_failure, hopened] at h
    obtain ⟨e', he', heq⟩ := Option.map_eq_some_iff.mp h
    cases heq
    exact he'
  · rw [hdraw, draw] at h
    have hdrawing := error_of_writing h
    have hfrom : Ends (Explained files request) (fun r => FromSource files request r.1)
        (opened files preset config) := opened_ends hsource
    rw [hopened] at hfrom
    rw [drawing_result, hopened] at hdrawing
    cases hreplay : p.replay.failure with
    | some e' =>
      simp only [hreplay, bind, Except.bind] at hdrawing
      cases hdrawing
      rfl
    | none =>
      simp only [hreplay, bind, Except.bind] at hdrawing
      have hends := c.sheet.render_ends hfrom.precision p.replay.segments.toList
      rw [hdrawing] at hends
      obtain ⟨r, hr⟩ := hends
      cases hr

theorem exit_three_iff {d : Effect} (verbose : Bool) :
    (d.report verbose).ending = .exit 3 ↔ d.failure = some (.turtle .underflow) := by
  cases hfail : d.failure with
  | none => simp [Effect.report, hfail]
  | some f =>
    rw [(report_of_failure verbose hfail).1, endingOf_exit_iff, Option.some.injEq]
    constructor
    · rintro ⟨-, hcode⟩
      by_contra hf
      simp [codeOf, hf] at hcode
    · rintro rfl
      exact ⟨True.intro, rfl⟩

theorem exit_zero_of_success {d : Effect} (verbose : Bool) (h : d.failure = none) :
    (d.report verbose).ending = .exit 0 ∧
      (d.report verbose).output = String.join (d.printed.map (· ++ "\n")) := by
  simp [Effect.report, h]

/-! ### Figures -/

/-- The figures of a word and of its replay, as they are printed. -/
structure Figures where
  symbols : Nat
  kinds : List (Kind × Nat)
  balanced : Bool
  segments : Nat
  depth : Nat

/-- The figures of a word that is replayed. -/
def Figures.of (w : Word) (r : Playback.Run) : Figures where
  symbols := w.length
  kinds := w.kindCounts
  balanced := w.isBalanced
  segments := r.segments.size
  depth := r.final.turtle.depth

namespace Figures

/-- The lines in which figures are printed. -/
def lines (x : Figures) : List String :=
  [s!"symbols: {x.symbols}",
    "kinds: " ++ " ".intercalate (x.kinds.map fun (k, n) => s!"{k.name}={n}"),
    "balanced: " ++ if x.balanced then "yes" else "no", s!"segments: {x.segments}",
    s!"stack depth after replay: {x.depth}"]

/-- The figure for a kind, which is zero if the kind is not printed. -/
def count (x : Figures) (k : Kind) : Nat := (x.kinds.lookup k).getD 0

/-- Figures that fit together, whatever word they are of. -/
structure Agree (x : Figures) : Prop where
  symbols : (x.kinds.map Prod.snd).sum = x.symbols
  segments : x.segments = x.count .forward
  depth : (x.depth : Int) = 1 + x.count .push - x.count .pop
  balanced : x.balanced = true ↔ x.depth = 1

end Figures

/-- The lines about a configuration before its figures. -/
def heading (title : String) (d : Definition) : List String :=
  ["name: " ++ title, "axiom: " ++ d.initial.text] ++
    d.rules.lines.map (fun line => "rule: " ++ String.ofList line) ++
    [s!"iterations: {d.generations}", s!"angle: {Angle.degreesText 3 d.delta} deg"]

theorem count_of {w : Word} {r : Playback.Run} {k : Kind} : (Figures.of w r).count k = w.count k :=
  Word.lookup_kindCounts

theorem agree_of {r : Playback.Run} (hcovered : ¬∃ j, Word.Overdrawn (w.take j))
    (hdepth : r.final.turtle.depth + List.count .pop w = 1 + List.count .push w)
    (hsegments : r.segments.size = w.count .forward) : (Figures.of w r).Agree where
  symbols := Word.sum_kindCounts
  segments := hsegments.trans count_of.symm
  depth := by
    rw [count_of, count_of, Word.count_push, Word.count_pop]
    show (r.final.turtle.depth : Int) = _
    omega
  balanced := by
    have hzero := Word.covered_zero_iff.mpr (not_exists.mp hcovered)
    have hiff : w.isBalanced = true ↔ List.count .pop w = List.count .push w := by
      rw [Word.isBalanced_iff]
      exact and_iff_right hzero
    show w.isBalanced = true ↔ r.final.turtle.depth = 1
    rw [hiff]
    omega

theorem lines_of (d : Definition) (w : Word) (r : Playback.Run) :
    figures d w ++ replayFigures r = heading d.name.shown d ++ (Figures.of w r).lines := by
  simp only [figures, replayFigures, heading, List.append_assoc, List.cons_append, List.nil_append]
  rfl

theorem printed_describe (hopened : opened files preset config = .ok (c, p))
    (h : p.replay.failure = none) :
    (describe files preset config).printed =
      heading c.definition.name.shown c.definition ++
        (Figures.of p.system.word.toList p.replay).lines := by
  unfold describe
  simp only [result_open, hopened, h]
  exact lines_of _ _ _

/-- A configuration that is loaded is played, and unless its turtle meets an infinite heading, to
show it ends with code 3 exactly when some start of the word of its last generation has more pops
than pushes, and else with code 0. Then the figures agree. To draw it ends with code 3 in the same
cases. -/
theorem shown_figures_agree (seed : Int) {verbose : Bool} {title : String}
    (hread : readRequest args = .read (verbose, .describe preset config))
    (hload : (loadConfig files preset config).result = .ok c)
    (hname : c.definition.name = Text.ofString title) :
    ∃ p, c.playback.result = .ok p ∧ c.definition.word = .ok p.system.word.toList ∧
      (p.replay.failure ≠ some .noDirection →
        let r := run files seed args
        let w : Word := p.system.word.toList
        let x := Figures.of w p.replay
        (r.ending = .exit 3 ↔ ∃ j, Word.Overdrawn (w.take j)) ∧
        (r.ending ≠ .exit 3 → r.ending = .exit 0) ∧
        (r.ending = .exit 0 → x.Agree ∧
          r.output = String.join ((heading title c.definition ++ x.lines).map (· ++ "\n"))) ∧
        ∀ (seed' : Int) (args' : List String) (verbose' : Bool) (request : Request),
          readRequest args' = .read (verbose', request) →
          request.source? = some (preset, config) →
          ((run files seed' args').ending = .exit 3 ↔ r.ending = .exit 3)) := by
  obtain ⟨v, hparse⟩ := parse_of_loadConfig hload
  obtain ⟨p, hplayback, hword, hdepth, hcursor, hplain⟩ := Config.playback_of_parse hparse
  refine ⟨p, hplayback, hword, fun hd => ?_⟩
  have hopened : opened files preset config = .ok (c, p) := by
    simp only [opened, hload, hplayback, bind, Except.bind, pure, Except.pure]
  -- whatever is done with the source, its end is that of the replay
  have hthree (seed' : Int) (args' : List String) (verbose' : Bool) (request : Request)
      (hread' : readRequest args' = .read (verbose', request))
      (hsource : request.source? = some (preset, config)) :
      (run files seed' args').ending = .exit 3 ↔ p.replay.failure = some .underflow := by
    rw [run, hread']
    exact (exit_three_iff verbose').trans
      (perform_turtle_iff ⟨preset, config, c, hsource, hopened⟩)
  have hshow := hthree seed args verbose _ hread rfl
  have hsame (seed' : Int) (args' : List String) (verbose' : Bool) (request : Request)
      (hread' : readRequest args' = .read (verbose', request))
      (hsource : request.source? = some (preset, config)) :
      (run files seed' args').ending = .exit 3 ↔ (run files seed args).ending = .exit 3 :=
    (hthree seed' args' verbose' request hread' hsource).trans hshow.symm
  rcases Playback.replay_cases hdepth hcursor hplain hd with
    ⟨hoverdrawn, hfail⟩ | ⟨hcovered, hnone, hcount, hsegments⟩
  · have hending := hshow.mpr hfail
    refine ⟨iff_of_true hending hoverdrawn, fun h => absurd hending h, fun h => ?_, hsame⟩
    cases hending.symm.trans h
  · have hfailure : (describe files preset config).failure = none := by
      rw [describe_failure, hopened]
      simp only [hnone, Option.map_none]
    have hrun : run files seed args = (describe files preset config).report verbose := by
      rw [run, hread]
      rfl
    obtain ⟨hending, houtput⟩ := exit_zero_of_success verbose hfailure
    rw [← hrun] at hending houtput
    refine ⟨iff_of_false ?_ hcovered, fun _ => hending, fun _ => ⟨?_, ?_⟩, hsame⟩
    · intro h
      cases hending.symm.trans h
    · exact agree_of hcovered hcount hsegments
    · rw [houtput, printed_describe hopened hnone, hname, Text.shown_ofString]

/-- A directory with a configuration in which brackets are left open. -/
def workshop : Files :=
  Files.ofList ["home"] [("c.json", .text ("\x7b\"name\": \"twig\", \"axiom\": \"F[x\", " ++
    "\"rules\": \"x => F[x\", \"iterations\": 1\x7d"))]

/-- The brackets of `F[F[x` are not balanced, and it is shown with code 0. -/
theorem open_brackets_are_shown :
    readRequest ["show", "--config", "c.json"] = .read (false, .describe none (.value "c.json")) ∧
    ∃ c p, (loadConfig workshop none (.value "c.json")).result = .ok c ∧
      c.definition.name = Text.ofString "twig" ∧ c.playback.result = .ok p ∧
      p.replay.failure ≠ some .noDirection ∧
      let r := run workshop 0 ["show", "--config", "c.json"]
      let x := Figures.of p.system.word.toList p.replay
      r.ending = .exit 0 ∧ x.Agree ∧ x.symbols = 5 ∧ x.balanced = false ∧
        r.output = String.join ((heading "twig" c.definition ++ x.lines).map (· ++ "\n")) := by
  have hread : readRequest ["show", "--config", "c.json"] =
      .read (false, .describe none (.value "c.json")) := readRequest_show_config (by simp)
  have hglance : ((opened workshop none (.value "c.json")).toOption.map fun (c, p) =>
      let w : Word := p.system.word.toList
      (c.definition.name, w.chars, List.count .pop w, w.isBalanced, p.replay.failure)) =
        some (Text.ofString "twig", "F[F[x".toList, 0, false, none) := by
    rw [opened, loadConfig_file, Config.load, workshop, read_sole_config]
    decide +kernel
  cases hopened : opened workshop none (.value "c.json") with
  | error f =>
    rw [hopened] at hglance
    cases hglance
  | ok r =>
    obtain ⟨c, p⟩ := r
    rw [hopened] at hglance
    simp only [Except.toOption, Option.map_some, Option.some.injEq, Prod.mk.injEq] at hglance
    obtain ⟨hname, hchars, hpops, hbalanced, hnone⟩ := hglance
    obtain ⟨c', hload, h⟩ := bind_eq_ok.mp hopened
    obtain ⟨p', hplayback, h⟩ := bind_eq_ok.mp h
    cases h
    have hd : p.replay.failure ≠ some .noDirection := by simp [hnone]
    obtain ⟨p', hplayback', -, hshown⟩ := shown_figures_agree 0 hread hload hname
    cases hplayback.symm.trans hplayback'
    obtain ⟨hthree, hzero, hagree, -⟩ := hshown hd
    have hsymbols : p.system.word.toList.length = 5 := by
      have := congrArg List.length hchars
      rwa [Word.chars, List.length_map] at this
    have hending := hzero fun h => by
      obtain ⟨j, hj⟩ := hthree.mp h
      have := (List.take_sublist j p.system.word.toList).count_le .pop
      rw [Word.Overdrawn] at hj
      omega
    obtain ⟨hagree, houtput⟩ := hagree hending
    exact ⟨hread, c, p, hload, hname, hplayback, hd, hending, hagree, hsymbols, hbalanced, houtput⟩

end Command

end TurtleGrammar
