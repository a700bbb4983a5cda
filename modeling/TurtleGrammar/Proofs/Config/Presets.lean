import TurtleGrammar.Proofs.Config.Fields
import TurtleGrammar.Proofs.Json.Plain

/-! The configurations of presets. Their numbers are small, and their texts have no surrogates, so a
preset is neither too large to be read nor impossible to write. -/

namespace TurtleGrammar.Config

open Json
open Text (surrogates)

variable {d : Definition} {field : List String}

theorem at_numberFields_ofDefinition (d : Definition) :
    numberFields.map (ofDefinition d).at? =
      [some (.float (Number.Fixed.round 6 (Angle.toDegrees d.delta))), some (.int 4),
        some (.int 0), some (.int 0), some (.int 0), some (.int 10), none, none, none] := rfl

theorem at_textFields_ofDefinition (d : Definition) :
    textFields.map (ofDefinition d).at? =
      [some (.string d.name), none, none, none, none, none] := rfl

theorem not_hasLarge_ofDefinition (d : Definition) : ¬HasLarge (ofDefinition d) := by
  rintro ⟨field, hfield, i, hat, hi⟩
  have hmem := List.mem_map_of_mem (f := (ofDefinition d).at?) hfield
  rw [at_numberFields_ofDefinition, hat] at hmem
  have hsmall : i = 4 ∨ i = 0 ∨ i = 10 := by simpa using hmem
  rcases hsmall with rfl | rfl | rfl <;> exact absurd hi (by decide +kernel)

theorem eq_name_of_at_ofDefinition {t : Text} (hfield : field ∈ textFields)
    (hat : (ofDefinition d).at? field = some (.string t)) : t = d.name := by
  have hmem := List.mem_map_of_mem (f := (ofDefinition d).at?) hfield
  rw [at_textFields_ofDefinition, hat] at hmem
  simpa using hmem

theorem isPlain_ofDefinition (hname : surrogates d.name = []) : (ofDefinition d).IsPlain := by
  have hrules : PlainItems (d.rules.lines.map fun line => .string (Text.ofChars line)) := by
    rw [plainItems_iff]
    intro v hv
    obtain ⟨line, -, rfl⟩ := List.mem_map.mp hv
    exact Text.surrogates_ofChars line
  simp [ofDefinition, Value.ofMembers, Value.IsPlain, PlainMembers, hname, hrules]

/-- How the search for the configuration of a preset ends. -/
theorem ofPreset_ends (name : String) :
    Ends (fun f => ∃ r, f = .refused r)
      (fun v => ∃ d, v = ofDefinition d ∧ surrogates d.name = []) (ofPreset name).result := by
  rw [ofPreset, Outcome.result_bind]
  refine Ends.bind (Q := fun d => surrogates d.name = []) ?_ fun d hd => ⟨d, rfl, hd⟩
  refine Ends.mapError (x := (Preset.find name).result) ?_
  cases hfind : (Preset.find name).result with
  | error r => exact ⟨r, rfl⟩
  | ok d =>
    unfold Preset.find at hfind
    split at hfind
    · obtain ⟨-, w, r, -, -, rfl⟩ := Definition.parse_eq_ok.mp hfind
      exact Text.surrogates_ofString _
    · cases hfind

end TurtleGrammar.Config
