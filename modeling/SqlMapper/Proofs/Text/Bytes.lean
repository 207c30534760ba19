import SqlMapper.Text.Bytes

/-!
# Texts read back from their bytes

The lossy reading of bytes loses nothing of bytes that are the encoding of a text.

* `encode_eq_flatMap`: a text is encoded one character after the other.
* `decodeFrom_character`: the bytes of a character are read as this character, whatever follows.
* `decodeLossy_encode`: reading what was encoded.
-/

namespace SqlMapper.Bytes

/-! ## Encoding -/

theorem encode_eq_flatMap (s : String) : encode s = s.toList.flatMap String.utf8EncodeChar := by
  rw [encode, String.toUTF8_eq_toByteArray, ← String.utf8Encode_toList, List.utf8Encode]
  simp

/-- Every character has bytes. -/
theorem encode_singleton_ne_nil (c : Char) : encode (String.singleton c) ≠ [] := by
  rw [encode_eq_flatMap, String.toList_singleton, List.flatMap_singleton]
  exact String.utf8EncodeChar_ne_nil

theorem encode_singleton {c : Char} (h : c.toNat < 0x80) :
    encode (String.singleton c) = [UInt8.ofNat c.toNat] := by
  have short : c.val.toNat ≤ 127 := Nat.le_of_lt_succ h
  rw [encode_eq_flatMap, String.toList_singleton, List.flatMap_singleton, String.utf8EncodeChar,
    if_pos short]
  rfl

/-! ## One step of reading -/

section Steps

variable {b : UInt8} {rest : Bytes} {code owed : Nat} {low high : UInt8}

theorem decodeFrom_char {c : Char} (h : lead b = .char c) :
    decodeFrom none (b :: rest) = c :: decodeFrom none rest := by
  rw [decodeFrom, h]

theorem decodeFrom_start {p : Pending} (h : lead b = .start p) :
    decodeFrom none (b :: rest) = decodeFrom (some p) rest := by
  rw [decodeFrom, h]

/-- A byte in the range that is expected, when more are owed. -/
theorem decodeFrom_more (h : low ≤ b ∧ b ≤ high) :
    decodeFrom (some ⟨code, owed + 1, low, high⟩) (b :: rest) =
      decodeFrom (some ⟨code * 0x40 + b.toNat % 0x40, owed, 0x80, 0xBF⟩) rest := by
  simp [decodeFrom, h]

/-- The last byte of a character. -/
theorem decodeFrom_last (h : low ≤ b ∧ b ≤ high) :
    decodeFrom (some ⟨code, 0, low, high⟩) (b :: rest) =
      Char.ofNat (code * 0x40 + b.toNat % 0x40) :: decodeFrom none rest := by
  simp [decodeFrom, h]

end Steps

/-! ## One character -/

section Bytes

variable {n : Nat}

theorem toNat_ofNat (h : n < 256) : (UInt8.ofNat n).toNat = n := by
  rw [UInt8.toNat_ofNat', Nat.mod_eq_of_lt h]

theorem ofNat_mem_range {low high : Nat} (hlow : low ≤ n) (hhigh : n ≤ high) (h : high < 256) :
    UInt8.ofNat low ≤ UInt8.ofNat n ∧ UInt8.ofNat n ≤ UInt8.ofNat high := by
  simp only [UInt8.le_iff_toNat_le, UInt8.toNat_ofNat']
  omega

theorem lead_one (h : n < 0x80) : lead (UInt8.ofNat n) = .char (Char.ofNat n) := by
  rw [lead, toNat_ofNat (by omega), if_pos h]

theorem lead_two (hlow : 0xC2 ≤ n) (hhigh : n < 0xE0) :
    lead (UInt8.ofNat n) = .start ⟨n % 0x20, 0, 0x80, 0xBF⟩ := by
  rw [lead, toNat_ofNat (by omega), if_neg (by omega), if_neg (by omega), if_pos hhigh]

theorem lead_three (hlow : 0xE0 ≤ n) (hhigh : n < 0xF0) :
    lead (UInt8.ofNat n) = .start ⟨n % 0x10, 1, UInt8.ofNat (if n = 0xE0 then 0xA0 else 0x80),
      UInt8.ofNat (if n = 0xED then 0x9F else 0xBF)⟩ := by
  rw [lead, toNat_ofNat (by omega), if_neg (by omega), if_neg (by omega), if_neg (by omega),
    if_pos hhigh]
  congr <;> split <;> rfl

theorem lead_four (hlow : 0xF0 ≤ n) (hhigh : n < 0xF5) :
    lead (UInt8.ofNat n) = .start ⟨n % 0x08, 2, UInt8.ofNat (if n = 0xF0 then 0x90 else 0x80),
      UInt8.ofNat (if n = 0xF4 then 0x8F else 0xBF)⟩ := by
  rw [lead, toNat_ofNat (by omega), if_neg (by omega), if_neg (by omega), if_neg (by omega),
    if_neg (by omega), if_pos hhigh]
  congr <;> split <;> rfl

/-- Six bits of a character, as they stand in a byte that is not the first. -/
theorem tail_mem_range (n : Nat) :
    0x80 ≤ UInt8.ofNat (n % 64 + 128) ∧ UInt8.ofNat (n % 64 + 128) ≤ 0xBF := by
  have inside : UInt8.ofNat 0x80 ≤ UInt8.ofNat (n % 64 + 128) ∧
      UInt8.ofNat (n % 64 + 128) ≤ UInt8.ofNat 0xBF :=
    ofNat_mem_range (by omega) (by omega) (by decide)
  exact inside

end Bytes

/-- The bytes of a character are read as this character, whatever follows. The cases are the lengths of
    an encoding; that of a character is never longer than it has to be, and no character is a
    surrogate. -/
theorem decodeFrom_character (c : Char) (rest : Bytes) :
    decodeFrom none (String.utf8EncodeChar c ++ rest) = c :: decodeFrom none rest := by
  have valid : c.val.toNat < 0xD800 ∨ 0xDFFF < c.val.toNat ∧ c.val.toNat < 0x110000 := c.valid
  have self : Char.ofNat c.val.toNat = c := Char.ofNat_toNat c
  simp only [String.utf8EncodeChar]
  generalize c.val.toNat = v at valid self
  by_cases one : v ≤ 127
  · rw [if_pos one, List.singleton_append, decodeFrom_char (lead_one (by omega)), self]
  by_cases two : v ≤ 2047
  · have value : (v / 64 % 32 + 192) % 32 * 64 + (v % 64 + 128) % 64 = v := by omega
    rw [if_neg one, if_pos two, List.cons_append, List.singleton_append,
      decodeFrom_start (lead_two (by omega) (by omega)), decodeFrom_last (tail_mem_range v),
      toNat_ofNat (by omega), value, self]
  by_cases three : v ≤ 65535
  · have value : ((v / 4096 % 16 + 224) % 16 * 64 + (v / 64 % 64 + 128) % 64) * 64 +
        (v % 64 + 128) % 64 = v := by omega
    have second := @ofNat_mem_range (v / 64 % 64 + 128)
      (if v / 4096 % 16 + 224 = 0xE0 then 0xA0 else 0x80)
      (if v / 4096 % 16 + 224 = 0xED then 0x9F else 0xBF)
      (by split <;> omega) (by split <;> omega) (by split <;> decide)
    rw [if_neg one, if_neg two, if_pos three, List.cons_append, List.cons_append,
      List.singleton_append, decodeFrom_start (lead_three (by omega) (by omega)),
      decodeFrom_more second, decodeFrom_last (tail_mem_range v), toNat_ofNat (by omega),
      toNat_ofNat (by omega), value, self]
  · have value : (((v / 262144 % 8 + 240) % 8 * 64 + (v / 4096 % 64 + 128) % 64) * 64 +
        (v / 64 % 64 + 128) % 64) * 64 + (v % 64 + 128) % 64 = v := by omega
    have second := @ofNat_mem_range (v / 4096 % 64 + 128)
      (if v / 262144 % 8 + 240 = 0xF0 then 0x90 else 0x80)
      (if v / 262144 % 8 + 240 = 0xF4 then 0x8F else 0xBF)
      (by split <;> omega) (by split <;> omega) (by split <;> decide)
    rw [if_neg one, if_neg two, if_neg three, List.cons_append, List.cons_append, List.cons_append,
      List.singleton_append, decodeFrom_start (lead_four (by omega) (by omega)),
      decodeFrom_more second, decodeFrom_more (tail_mem_range (v / 64)),
      decodeFrom_last (tail_mem_range v), toNat_ofNat (by omega), toNat_ofNat (by omega),
      toNat_ofNat (by omega), value, self]

/-- The lossy reading loses nothing of a text. -/
theorem decodeLossy_encode (s : String) : decodeLossy (encode s) = s := by
  have chars : ∀ cs : List Char, decodeFrom none (cs.flatMap String.utf8EncodeChar) = cs := by
    intro cs
    induction cs with
    | nil => rfl
    | cons c cs ih => rw [List.flatMap_cons, decodeFrom_character, ih]
  rw [decodeLossy, encode_eq_flatMap, chars, String.ofList_toList]

end SqlMapper.Bytes
