import SqlMapper.Proofs.Text.Bytes
import SqlMapper.Url.Percent

/-!
# Percent encoding, once and again

What is encoded holds no character that would have to be encoded, so that encoding it again changes
nothing. And the bytes that were encoded are found again.

* `Free`: a text that holds no character of a set.
* `free_encode`: what encoding yields is free, for the set of every part of a URL.
* `Free.encode_eq`: encoding leaves a free text alone.
* `decode_encodeByte`, `decode_cons`: decoding, step by step.
-/

namespace SqlMapper.Percent

variable {set other : Char → Bool} {s t : List Char} {c : Char}

/-! ## Texts without characters of a set -/

/-- No character of the text is in the set. -/
def Free (set : Char → Bool) (s : List Char) : Prop := ∀ c ∈ s, set c = false

-- Over the characters of the text: there is also an instance that goes over all characters.
instance (set : Char → Bool) (s : List Char) : Decidable (Free set s) := List.decidableBAll _ s

theorem free_nil : Free set [] := List.forall_mem_nil _

theorem free_cons : Free set (c :: s) ↔ set c = false ∧ Free set s := List.forall_mem_cons

theorem free_append : Free set (s ++ t) ↔ Free set s ∧ Free set t := List.forall_mem_append

theorem Free.not_mem (h : Free set s) (hc : set c = true) : c ∉ s := by
  intro hmem
  rw [h c hmem] at hc
  cases hc

theorem Free.mono (h : Free set s) (larger : ∀ c, other c = true → set c = true) : Free other s := by
  intro c hc
  rw [← Bool.not_eq_true]
  intro hother
  exact h.not_mem (larger c hother) hc

/-- Encoding leaves a free text alone. -/
theorem Free.encode_eq (h : Free set s) : encode set s = s := by
  induction s with
  | nil => rfl
  | cons c s ih =>
    obtain ⟨hc, hs⟩ := free_cons.mp h
    have rest := ih hs
    rw [encode] at rest
    rw [encode, List.flatMap_cons, hc, rest]
    rfl

/-! ## What encoding writes -/

/-- The set has none of the characters that encoding writes. -/
def Spares (set : Char → Bool) : Prop := set '%' = false ∧ ∀ n < 16, set (Bytes.hexDigit true n) = false

instance (set : Char → Bool) : Decidable (Spares set) := inferInstanceAs (Decidable (_ ∧ _))

theorem Spares.free_encodeByte (h : Spares set) (b : UInt8) : Free set (encodeByte b) := by
  have high : b.toNat / 16 < 16 := Nat.div_lt_of_lt_mul b.toNat_lt
  have low : b.toNat % 16 < 16 := Nat.mod_lt _ (by decide)
  exact free_cons.mpr ⟨h.1, free_cons.mpr ⟨h.2 _ high, free_cons.mpr ⟨h.2 _ low, free_nil⟩⟩⟩

/-- Encoding keeps what is not in the set, and writes bytes for the rest. -/
theorem mem_encode (h : c ∈ encode set s) : c ∈ s ∧ set c = false ∨ ∃ b, c ∈ encodeByte b := by
  obtain ⟨d, hd, hc⟩ := List.mem_flatMap.mp h
  cases hset : set d with
  | true =>
    rw [if_pos hset] at hc
    obtain ⟨b, -, hb⟩ := List.mem_flatMap.mp hc
    exact .inr ⟨b, hb⟩
  | false =>
    rw [hset] at hc
    obtain rfl := List.mem_singleton.mp hc
    exact .inl ⟨hd, hset⟩

/-- What was encoded needs no encoding any more. -/
theorem Spares.free_encode (h : Spares set) (s : List Char) : Free set (encode set s) := by
  intro c hc
  rcases mem_encode hc with ⟨-, hset⟩ | ⟨b, hb⟩
  · exact hset
  · exact h.free_encodeByte b c hb

/-- A text that is free of some characters stays so when others are encoded. -/
theorem Free.encode (h : Free other s) (spares : Spares other) (set : Char → Bool) :
    Free other (encode set s) := by
  intro c hc
  rcases mem_encode hc with ⟨hs, -⟩ | ⟨b, hb⟩
  · exact h c hs
  · exact spares.free_encodeByte b c hb

/-- No character is lost. -/
theorem encode_ne_nil (set : Char → Bool) (h : s ≠ []) : encode set s ≠ [] := by
  obtain ⟨c, s, rfl⟩ := List.exists_cons_of_ne_nil h
  rw [encode, List.flatMap_cons]
  refine List.append_ne_nil_of_left_ne_nil ?_ _
  split
  · obtain ⟨b, bs, hbytes⟩ := List.exists_cons_of_ne_nil (Bytes.encode_singleton_ne_nil c)
    rw [hbytes]
    exact List.cons_ne_nil _ _
  · exact List.cons_ne_nil _ _

/-- The sets of all parts of a URL. -/
theorem spares_parts :
    Spares control ∧ Spares inFragment ∧ Spares inQuery ∧ Spares inPath ∧ Spares inUserInfo := by
  decide

/-! ## Decoding -/

/-- The bytes that were encoded are found again. -/
theorem decode_encodeByte (b : UInt8) (rest : List Char) :
    decode (encodeByte b ++ rest) = b :: decode rest := by
  have high := Bytes.hexValue?_hexDigit (b.toNat / 16) (Nat.div_lt_of_lt_mul b.toNat_lt)
  have low := Bytes.hexValue?_hexDigit (b.toNat % 16) (Nat.mod_lt _ (by decide))
  show decode ('%' :: Bytes.hexDigit true (b.toNat / 16) :: Bytes.hexDigit true (b.toNat % 16) :: rest) = _
  rw [decode, high, low]
  show UInt8.ofNat (b.toNat / 16 * 16 + b.toNat % 16) :: decode rest = _
  rw [Nat.mul_comm, Nat.div_add_mod, UInt8.ofNat_toNat]

/-- A character that is no percent sign stands for itself. -/
theorem decode_cons (hc : c ≠ '%') (hascii : c.toNat < 0x80) (rest : List Char) :
    decode (c :: rest) = UInt8.ofNat c.toNat :: decode rest := by
  rw [decode, Bytes.encode_singleton hascii]
  · rfl
  · rintro a b rest' rfl
    exact absurd rfl hc

end SqlMapper.Percent
