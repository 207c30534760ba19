import SqlMapper.Column.Coerce
import SqlMapper.Proofs.Text.Blank
import SqlMapper.Proofs.Text.Bytes

/-!
# Columns with a conversion

What a conversion reads of a column is the text that its bytes encode, without the blanks around it.

* `coerce_of_decode?`, `exists_of_coerce`: from the bytes to the conversion, and back.
* `coerce_of_trimmed`: a text without blanks around it is read as it is.
-/

namespace SqlMapper

variable {conversion : Conversion} {raw : Option Bytes} {b : Bytes} {code : UInt8} {text : List Char}
  {s : String} {v : Value}

theorem coerce_of_decode? (hcode : conversion? code = some conversion)
    (hdecode : Bytes.decode? b = some s) :
    coerce (some b) code = conversion.read (Text.trim s.toList) := by
  unfold coerce
  dsimp only
  rw [hcode]
  dsimp only
  rw [hdecode]

/-- A value other than null was read from the text of the bytes. -/
theorem exists_of_coerce (hcode : conversion? code = some conversion)
    (h : coerce raw code = .ok v) (hnull : v ≠ .null) :
    ∃ b s, raw = some b ∧ Bytes.decode? b = some s ∧
      conversion.read (Text.trim s.toList) = .ok v := by
  cases raw with
  | none =>
    cases h
    exact absurd rfl hnull
  | some b =>
    cases hdecode : Bytes.decode? b with
    | none =>
      unfold coerce at h
      simp [hcode, hdecode] at h
    | some s =>
      rw [coerce_of_decode? hcode hdecode] at h
      exact ⟨b, s, rfl, hdecode, h⟩

theorem coerce_encode (hcode : conversion? code = some conversion) (s : String) :
    coerce (some (Bytes.encode s)) code = conversion.read (Text.trim s.toList) :=
  coerce_of_decode? hcode (Bytes.decode?_encode s)

theorem coerce_of_trimmed (hcode : conversion? code = some conversion) (h : Text.Trimmed text) :
    coerce (some (Bytes.encode (String.ofList text))) code = conversion.read text := by
  rw [coerce_encode hcode, String.toList_ofList, h.trim_eq]

end SqlMapper
