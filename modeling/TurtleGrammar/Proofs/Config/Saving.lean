import TurtleGrammar.Config
import TurtleGrammar.Proofs.Files.Reading
import TurtleGrammar.Proofs.Json.RoundTrip

/-! Values saved and loaded. What is loaded from the file in which a value was saved is that value,
unless a string in it has a surrogate or an integer in it is too long. Saved again, it gives the
same file. Values are nested as deep as they like: the stack that reading and writing them takes has
no bound here. -/

namespace TurtleGrammar.Config

open Json

variable {files after : Files} {path : String} {v : Value}

theorem save_of_write (hplain : v.IsPlain)
    (h : files.write path (.text (document v).written) = .ok after) :
    files.save path (document v) = (after, none) :=
  Files.save_eq_iff.mpr ⟨(plain_document hplain).fault_eq_none, h⟩

/-- A document without surrogates is saved whole, unless its file cannot be written. -/
theorem save_plain (hplain : v.IsPlain) (files : Files) (path : String) :
    (∃ made e, files.save path (document v) = (made, some (.file e)) ∧
        files.AddsDirectories made) ∨
      ∃ after, files.save path (document v) = (after, none) ∧
        files.write path (.text (document v).written) = .ok after := by
  have hends := files.write_ends_with path (.text (document v).written)
  cases hwrite : files.write path (.text (document v).written) with
  | error r =>
    rw [hwrite] at hends
    exact .inl ⟨r.1, r.2, by rw [Files.save, hwrite], hends⟩
  | ok after => exact .inr ⟨after, save_of_write hplain hwrite, rfl⟩

/-- A document without surrogates is read from its file as its characters. -/
theorem load_of_read (hplain : v.IsPlain)
    (hread : files.read path = .ok (.text (document v).written)) :
    load files path = (read (Text.unifyBreaks (document v).chars)).mapError fun
      | .malformed e => .refused (.badJson path e)
      | .tooManyDigits count => .tooManyDigits count := by
  rw [load, hread, ← (plain_document hplain).toList_written]
  rfl

theorem load_plain (hplain : v.IsPlain) (hv : v.IsReadable)
    (hread : files.read path = .ok (.text (document v).written)) : load files path = .ok v := by
  rw [load_of_read hplain hread, read_document hplain hv]
  rfl

/-- What is loaded is readable. -/
theorem readable_of_load (h : load files path = .ok v) : v.IsReadable := by
  obtain ⟨content, -, h⟩ := bind_eq_ok.mp h
  obtain ⟨text, -, h⟩ := bind_eq_ok.mp h
  exact readable_of_read (mapError_eq_ok.mp h)

/-- A value that has no surrogate in a string, no integer that is too long and no object with a name
twice is loaded as it is from the file in which it was saved. If a value without surrogates was
loaded from a file, it is saved, and what is loaded then is saved to the same file again, or to
another one with the same content. -/
theorem saved_values_load :
    (∀ v : Value, v.IsPlain → v.IsReadable → ∀ (files : Files) (path : String),
      (∃ made e, files.save path (document v) = (made, some (.file e)) ∧
        files.AddsDirectories made) ∨
      ∃ after, files.save path (document v) = (after, none) ∧ load after path = .ok v) ∧
    ∀ (source : Files) (origin : String) (v : Value), load source origin = .ok v → v.IsPlain →
      ∀ (files : Files) (path : String),
      (∃ made e, files.save path (document v) = (made, some (.file e)) ∧
        files.AddsDirectories made) ∨
      ∃ after w, files.save path (document v) = (after, none) ∧ load after path = .ok w ∧
        after.save path (document w) = (after, none) ∧
        ∀ elsewhere again, after.save elsewhere (document w) = (again, none) →
          again.read elsewhere = after.read path := by
  refine ⟨fun v hplain hv files path => ?_, fun source origin v hload hplain files path => ?_⟩
  · refine (save_plain hplain files path).imp_right fun ⟨after, hsave, hwrite⟩ => ?_
    exact ⟨after, hsave, load_plain hplain hv (Files.read_write hwrite)⟩
  · have hv := readable_of_load hload
    refine (save_plain hplain files path).imp_right fun ⟨after, hsave, hwrite⟩ => ?_
    have hread := Files.read_write hwrite
    refine ⟨after, v, hsave, load_plain hplain hv hread, ?_, fun elsewhere again hagain => ?_⟩
    · exact save_of_write hplain (Files.write_write hwrite)
    · rw [hread]
      exact Files.read_write (Files.save_eq_iff.mp hagain).2

/-! ### Single values -/

/-- An object with members of all types. -/
def sample : Value :=
  .object
    [("kinds",
        .array [.null, .bool true, .int (-40), .float 0.1, .float Number.Binary64.notANumber]),
      ("a \"quoted\"\n\tname", .string "\u0001 and \u03c0"),
      ("empty", .array [.array [], .object []])]

/-- The sample is saved, loaded, and saved again to the same file. -/
theorem sample_loads :
    let files := Files.ofList ["home"] []
    sample.IsPlain ∧ sample.IsReadable ∧
      ∃ after, files.save "c.json" (document sample) = (after, none) ∧
        load after "c.json" = .ok sample ∧
        ∃ w, load after "c.json" = .ok w ∧ after.save "c.json" (document w) = (after, none) := by
  intro files
  have hplain : sample.IsPlain := by decide
  have hreadable : sample.IsReadable := by
    have hshort : 40 < 10 ^ Number.maxDigits :=
      Nat.lt_of_lt_of_le (show 40 < 10 ^ 2 by decide) (Nat.pow_le_pow_right (by decide) (by decide))
    refine ⟨by decide, ⟨trivial, trivial, hshort, trivial, trivial, trivial⟩, trivial, ?_, trivial⟩
    exact ⟨trivial, ⟨List.nodup_nil, trivial⟩, trivial⟩
  have hsave := save_of_write hplain (Files.write_first (.text (document sample).written))
  obtain ⟨hvalues, hfiles⟩ := saved_values_load
  rcases hvalues sample hplain hreadable files "c.json" with
    ⟨made, e, he, -⟩ | ⟨after, hafter, hload⟩
  · cases congrArg Prod.snd (hsave.symm.trans he)
  · refine ⟨hplain, hreadable, after, hafter, hload, ?_⟩
    rcases hfiles after "c.json" sample hload hplain files "c.json" with
      ⟨made, e, he, -⟩ | ⟨after', w, hafter', hload', hagain, -⟩
    · cases congrArg Prod.snd (hsave.symm.trans he)
    · cases hafter.symm.trans hafter'
      exact ⟨w, hload', hagain⟩

/-- The numeral of an integer that is one digit too long is refused. -/
theorem long_integer_refused :
    let v := Value.int (10 ^ 4300)
    let files : Files := ⟨["home"], [(["home", "c.json"], .text (document v).written)], []⟩
    v.IsPlain ∧ load files "c.json" = .error (.tooManyDigits 4301) := by
  intro v files
  have hplain : v.IsPlain := trivial
  have hlong : ∀ k, Number.maxDigits ≤ k → 10 ^ Number.maxDigits ≤ (10 ^ k : Int).natAbs := by
    intro k hk
    rw [Int.natAbs_pow]
    exact Nat.pow_le_pow_right (by decide) hk
  have hlength : ∀ k, (Nat.toDigits 10 (10 ^ k : Int).natAbs).length = k + 1 := by
    intro k
    rw [Int.natAbs_pow]
    exact Text.length_toDigits_pow k
  refine ⟨hplain, ?_⟩
  rw [load_of_read hplain (Files.read_write (Files.write_first _)),
    read_document_of_long (hlong 4300 (Nat.le_refl 4300)), hlength 4300]
  rfl

end TurtleGrammar.Config
