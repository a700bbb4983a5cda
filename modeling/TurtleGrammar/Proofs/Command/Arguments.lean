import TurtleGrammar.Command.Request
import TurtleGrammar.Proofs.Grammar.Reading
import Mathlib.Data.List.TakeWhile

/-! How a command line is read. The main command takes options up to the first operand, which is the
name of a command, and leaves everything after it to that command. -/

namespace TurtleGrammar.Command

variable {sig : Signature} {o : Operand} {m : Manual} {name path output text : String}
  {args operands : List String} {forms : List Arg} {request : Request}

/-! ### Forms -/

theorem classify_operand (h : text.startsWith "-" = false) : sig.classify text = .ok .operand := by
  rw [Signature.classify, h]
  rfl

theorem ne_hyphens (h : text.startsWith "-" = false) : text ≠ "--" := by
  rintro rfl
  simp at h

theorem classify_config_main : mainManual.signature.classify "--config" = .ok .unknown := by
  have hpieces : Text.pieces '=' "--config" = ["--config"] := by decide
  have hcandidates : mainManual.signature.candidates "--config" = [] := by
    simp [Signature.candidates, hpieces, Signature.named, mainManual, helpSwitch, verboseSwitch]
  have hswitch : mainManual.signature.switch? "--config" = none := by decide
  have hnumber : Signature.looksNegative "--config".toList = false := by decide
  simp only [Signature.classify, hswitch, hpieces, hcandidates, hnumber]
  simp

theorem classify_config (h : sig.switch? "--config" = some configSwitch) :
    sig.classify "--config" = .ok (.switch configSwitch "--config" none) := by
  simp only [Signature.classify, h]
  simp

theorem texts_classifyAll (h : sig.classifyAll args = .ok forms) : forms.map Arg.text = args := by
  induction args generalizing forms with
  | nil =>
    cases h
    rfl
  | cons text rest ih =>
    rw [Signature.classifyAll.eq_def] at h
    split at h
    · next heq => cases heq
    · next heq =>
      cases heq
      cases h
      simp [Function.comp_def]
    · next heq =>
      cases heq
      obtain ⟨form, -, h⟩ := bind_eq_ok.mp h
      obtain ⟨forms, hforms, h⟩ := bind_eq_ok.mp h
      cases h
      rw [List.map_cons, ih hforms]

theorem classifyAll_operands (h : ∀ t ∈ operands, t.startsWith "-" = false) :
    sig.classifyAll operands = .ok (operands.map (⟨·, .operand⟩)) := by
  induction operands with
  | nil => rfl
  | cons text rest ih =>
    obtain ⟨htext, hrest⟩ := List.forall_mem_cons.mp h
    rw [Signature.classifyAll, classify_operand htext, ih hrest]
    · rfl
    · exact ne_hyphens htext

theorem texts_operands (arity : Arity) (h : ∀ t ∈ operands, t.startsWith "-" = false) :
    arity.texts (operands.map (⟨·, .operand⟩)) = operands := by
  have hnone : "--" ∉ operands := fun hmem => ne_hyphens (h _ hmem) rfl
  simp [Arity.texts, Function.comp_def, List.erase_of_not_mem hnone]

/-! ### Scans -/

/-- A command of which the operands take in what follows them has one finding, whatever options are
among its arguments. -/
theorem scan_rest (ho : sig.operand = some o) (hrest : o.arity = .rest)
    (hname : name.startsWith "-" = false) (h : sig.classifyAll args = .ok forms) :
    sig.scan (name :: args) = ⟨[.operands (name :: args)], [], none⟩ := by
  have hforms : sig.classifyAll (name :: args) = .ok (⟨name, .operand⟩ :: forms) := by
    rw [Signature.classifyAll, classify_operand hname, h]
    · rfl
    · exact ne_hyphens hname
  have htake : (some o).bind (fun o => (o.arity.take? (⟨name, .operand⟩ :: forms)).map
      fun n => (o.arity, n)) = some (.rest, (⟨name, .operand⟩ :: forms : List Arg).length) := by
    simp [hrest, Arity.take?, Nat.add_comm]
  have htexts : Arity.texts .rest (⟨name, .operand⟩ :: forms) = name :: args := by
    simp [Arity.texts, texts_classifyAll h]
  rw [Signature.scan, hforms, ho]
  simp only [Signature.scanArgs, htake]
  -- either no option follows, or the first one does not stop operands that take in the rest
  split
  · simp [htexts, Scan.empty, Scan.leave, Scan.find]
  · rw [List.takeWhile_cons_of_pos rfl, List.isEmpty_cons, if_neg (by simp)]
    simp [htexts, Scan.empty, Scan.leave, Scan.find, Signature.scanArgs]

theorem scan_operands {fuel : Nat} (ho : sig.operand = some o)
    (h : ∀ t ∈ operands, t.startsWith "-" = false)
    (htake : o.arity.take? (operands.map (⟨·, .operand⟩)) = some operands.length) :
    sig.scanArgs (fuel + 1) sig.operand (operands.map (⟨·, .operand⟩)) =
      ⟨[.operands operands], [], none⟩ := by
  have hfront : (operands.map (⟨·, .operand⟩) : List Arg).takeWhile (·.form.isOperand) =
      operands.map (⟨·, .operand⟩) := by
    rw [List.takeWhile_eq_self_iff]
    simp [Form.isOperand]
  simp only [Signature.scanArgs, hfront, List.drop_length, ho, Option.bind_some, htake,
    Option.map_some]
  have hall : (operands.map (⟨·, .operand⟩) : List Arg).take operands.length =
      operands.map (⟨·, .operand⟩) := List.take_of_length_le (by simp)
  rw [hall, texts_operands o.arity h, List.drop_of_length_le (by simp)]
  rfl

theorem scan_config (hconfig : sig.switch? "--config" = some configSwitch)
    (ho : sig.operand = some o) (hpath : path.startsWith "-" = false)
    (h : ∀ t ∈ operands, t.startsWith "-" = false)
    (htake : o.arity.take? (operands.map (⟨·, .operand⟩)) = some operands.length) :
    sig.scan ("--config" :: path :: operands) =
      ⟨[.switch configSwitch (some path), .operands operands], [], none⟩ := by
  have hforms : sig.classifyAll ("--config" :: path :: operands) =
      .ok (⟨"--config", .switch configSwitch "--config" none⟩ :: ⟨path, .operand⟩ ::
        operands.map (⟨·, .operand⟩)) := by
    rw [Signature.classifyAll, classify_config hconfig,
      classifyAll_operands (List.forall_mem_cons.mpr ⟨hpath, h⟩)]
    · rfl
    · simp
  have hvalue : Finding.ofValue configSwitch path = .switch configSwitch (some path) := by
    rw [Finding.ofValue, if_neg (ne_hyphens hpath)]
  rw [Signature.scan, hforms, ← hvalue]
  show ((sig.scanArgs _ sig.operand _).find _).leave _ = _
  rw [List.length_cons, List.length_cons, scan_operands ho h htake]
  rfl

/-! ### Requests -/

theorem readValues_main (hname : name.startsWith "-" = false)
    (h : mainManual.signature.classifyAll args = .ok forms) :
    readValues mainManual (name :: args) =
      .read (⟨.absent, .absent, false, some (name :: args)⟩, []) := by
  rw [readValues, scan_rest rfl rfl hname h]
  rfl

/-- The arguments after the name of a command are those of the command. -/
theorem readRequest_of_command (hname : name.startsWith "-" = false)
    (h : mainManual.signature.classifyAll args = .ok forms)
    (hcommand : readCommand name args = .read (request, [])) :
    readRequest (name :: args) = .read (false, request) := by
  rw [readRequest, readValues_main hname h]
  show Reading.bind (readCommand name args) _ = _
  rw [hcommand]
  rfl

/-- A path after the option for it, and operands that the command takes all of. -/
theorem readValues_config (hconfig : m.signature.switch? "--config" = some configSwitch)
    (ho : m.signature.operand = some o) (hpath : path.startsWith "-" = false)
    (h : ∀ t ∈ operands, t.startsWith "-" = false)
    (htake : o.arity.take? (operands.map (⟨·, .operand⟩)) = some operands.length) :
    readValues m ("--config" :: path :: operands) =
      .read (⟨.value path, .absent, false, some operands⟩, []) := by
  rw [readValues, scan_config hconfig ho hpath h htake, ho]
  rfl

theorem classifyAll_config_main (h : ∀ t ∈ operands, t.startsWith "-" = false) :
    mainManual.signature.classifyAll ("--config" :: operands) =
      .ok (⟨"--config", .unknown⟩ :: operands.map (⟨·, .operand⟩)) := by
  rw [Signature.classifyAll, classify_config_main, classifyAll_operands h]
  · rfl
  · simp

theorem readRequest_show_config (h : path.startsWith "-" = false) :
    readRequest ["show", "--config", path] = .read (false, .describe none (.value path)) := by
  refine readRequest_of_command (by simp)
    (classifyAll_config_main (List.forall_mem_singleton.mpr h)) ?_
  have hvalues : readValues showManual ["--config", path] =
      .read (⟨.value path, .absent, false, some []⟩, []) :=
    readValues_config (by decide) rfl h (by simp) rfl
  simp only [readCommand, hvalues]
  rfl

theorem readRequest_render_config (hpath : path.startsWith "-" = false)
    (houtput : output.startsWith "-" = false) :
    readRequest ["render", "--config", path, output] =
      .read (false, .draw [output] (.value path)) := by
  have houtputs : ∀ t ∈ [output], t.startsWith "-" = false := List.forall_mem_singleton.mpr houtput
  refine readRequest_of_command (by simp)
    (classifyAll_config_main (List.forall_mem_cons.mpr ⟨hpath, houtputs⟩)) ?_
  have hvalues : readValues renderManual ["--config", path, output] =
      .read (⟨.value path, .absent, false, some [output]⟩, []) :=
    readValues_config (by decide) rfl hpath houtputs rfl
  simp only [readCommand, hvalues]
  rfl

end TurtleGrammar.Command
