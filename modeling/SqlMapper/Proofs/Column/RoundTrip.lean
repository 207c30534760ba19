import SqlMapper.Column.Coerce
import SqlMapper.Proofs.Sql.Statement

/-!
# Columns read and written back

A column whose type has no conversion is read as it is: as text if its bytes are UTF-8, else as bytes. The
literal of such a value denotes the bytes that were read, whatever they are, wherever it stands in a
statement.

* `Token.denoted?`: the bytes that a token denotes.
* `Unconverted`: what bytes are read as that have no conversion.
* `literal_coerce_denotes`: reading and writing back loses nothing.
-/

namespace SqlMapper

open Sql (Token Reads tokenize reads_literal)

/-- The bytes that a token denotes; a text is written in UTF-8. -/
def Sql.Token.denoted? : Token → Option Bytes
  | .text s => some (Bytes.encode s)
  | .bytes b => some b
  | _ => none

/-- Bytes that encode a text. -/
def Bytes.IsText (b : Bytes) : Prop := ∃ s, Bytes.encode s = b

/-- What bytes are read as that have no conversion: the text that they encode, or themselves. -/
inductive Unconverted (b : Bytes) : Value → Prop
  | text {s : String} (encodes : Bytes.encode s = b) : Unconverted b (.text s)
  | bytes (other : ¬ b.IsText) : Unconverted b (.bytes b)

section Unconverted

variable {b : Bytes} {v : Value}

theorem Bytes.not_isText (h : Bytes.decode? b = none) : ¬ b.IsText := by
  rintro ⟨s, rfl⟩
  rw [Bytes.decode?_encode] at h
  cases h

theorem unconverted_ofRaw (b : Bytes) : Unconverted b (.ofRaw b) := by
  unfold Value.ofRaw
  cases h : Bytes.decode? b with
  | some s => exact .text (Bytes.encode_of_decode? h)
  | none => exact .bytes (Bytes.not_isText h)

theorem coerce_of_conversion?_eq_none {code : UInt8} (h : conversion? code = none) (b : Bytes) :
    coerce (some b) code = .ok (.ofRaw b) := by
  rw [coerce, h]

/-- The literal of a value that was not converted is one token, which denotes the bytes of the column. -/
theorem Unconverted.exists_token (h : Unconverted b v) :
    ∃ token : Token, Reads (Dialect.mysql.literal v).toList [token] ∧ token.denoted? = some b := by
  cases h with
  | @text s encodes =>
    refine ⟨.text s, reads_literal (v := .text s) nofun, ?_⟩
    rw [Token.denoted?, encodes]
  | bytes other => exact ⟨.bytes b, reads_literal (v := .bytes b) nofun, rfl⟩

/-- **Reading a column and writing it back loses nothing.** For all bytes, and every type without a
    conversion, a column is read as text or as bytes, and the literal of what was read denotes the same
    bytes: alone, and wherever it stands in a statement. -/
theorem literal_coerce_denotes {code : UInt8} (h : conversion? code = none) (b : Bytes) :
    ∃ v, coerce (some b) code = .ok v ∧ Unconverted b v ∧
      ∃ token : Token, tokenize (Dialect.mysql.literal v) = some [token] ∧
        Reads (Dialect.mysql.literal v).toList [token] ∧ token.denoted? = some b := by
  have unconverted := unconverted_ofRaw b
  obtain ⟨token, reads, denoted⟩ := unconverted.exists_token
  exact ⟨.ofRaw b, coerce_of_conversion?_eq_none h b, unconverted, token, reads.tokenize_eq, reads,
    denoted⟩

/-- A string column with a quote, a backslash and a zero byte. -/
theorem literal_coerce_denotes_quoted :
    conversion? 253 = none ∧ ∃ v, coerce (some [39, 92, 0]) 253 = .ok v ∧ Unconverted [39, 92, 0] v ∧
      ∃ token : Token, tokenize (Dialect.mysql.literal v) = some [token] ∧
        Reads (Dialect.mysql.literal v).toList [token] ∧ token.denoted? = some [39, 92, 0] :=
  ⟨rfl, literal_coerce_denotes rfl [39, 92, 0]⟩

end Unconverted

end SqlMapper
