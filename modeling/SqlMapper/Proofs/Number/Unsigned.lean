import Mathlib.Data.List.Induction
import SqlMapper.Number.Decimal

/-!
# Unsigned numbers as they are written

An unsigned number is written in decimal digits. A plus sign may stand before it, and zeros in front of it
change nothing.

* `UnsignedText`: the texts of a number.
* `eq_zeros_decimal`: digits are zeros and then the number that they stand for.
* `readBelow?_eq_some_iff`: which texts are read as a number below a bound.
-/

namespace SqlMapper.Number

variable {s ds : List Char} {n bound : Nat}

/-- The texts of a number: its decimal digits, after any number of zeros and a plus sign, if there is one. -/
def UnsignedText (s : List Char) (n : Nat) : Prop :=
  ∃ sign zeros, (sign = [] ∨ sign = ['+']) ∧ s = sign ++ (List.replicate zeros '0' ++ Nat.toDigits 10 n)

/-! ## Digits -/

theorem toDigits_digit {c : Char} (h : c.isDigit = true) :
    c.toNat - '0'.toNat < 10 ∧ Nat.toDigits 10 (c.toNat - '0'.toNat) = [c] := by
  obtain ⟨hlow, hhigh⟩ := Char.isDigit_iff_toNat.mp h
  have hvalue : c.toNat - '0'.toNat < 10 := by
    have hnine : '9'.toNat = '0'.toNat + 9 := rfl
    omega
  have digits : ∀ d < 10, Nat.digitChar d = Char.ofNat ('0'.toNat + d) := by decide
  refine ⟨hvalue, ?_⟩
  rw [Nat.toDigits_of_lt_base hvalue, digits _ hvalue, Nat.add_sub_of_le hlow, Char.ofNat_toNat]

/-- One more digit, at the end. -/
theorem toDigits_concat {c : Char} (hpos : 0 < n) (h : c.isDigit = true) :
    Nat.toDigits 10 (10 * n + (c.toNat - '0'.toNat)) = Nat.toDigits 10 n ++ [c] := by
  obtain ⟨hlt, hdigit⟩ := toDigits_digit h
  rw [← Nat.toDigits_append_toDigits (by decide) hpos hlt, hdigit]

theorem ofDigits_concat (ds : List Char) (c : Char) :
    ofDigits (ds ++ [c]) = 10 * ofDigits ds + (c.toNat - '0'.toNat) := by
  rw [ofDigits, Nat.ofDigitChars_append]
  rfl

/-- Digits are zeros and then the number that they stand for. -/
theorem eq_zeros_decimal (hne : ds ≠ []) (h : ∀ c ∈ ds, c.isDigit = true) :
    ∃ zeros, ds = List.replicate zeros '0' ++ Nat.toDigits 10 (ofDigits ds) := by
  induction ds using List.reverseRecOn with
  | nil => exact absurd rfl hne
  | append_singleton ds c ih =>
    obtain ⟨hds, hc⟩ := List.forall_mem_append.mp h
    have hc := hc c (List.mem_singleton_self c)
    rw [ofDigits_concat]
    by_cases hnil : ds = []
    · subst hnil
      refine ⟨0, ?_⟩
      show [c] = Nat.toDigits 10 (0 + (c.toNat - '0'.toNat))
      rw [Nat.zero_add, (toDigits_digit hc).2]
    obtain ⟨zeros, hzeros⟩ := ih hnil hds
    by_cases hzero : ofDigits ds = 0
    · -- only zeros so far: the last of them is no digit of the number
      rw [hzero] at hzeros ⊢
      refine ⟨zeros + 1, ?_⟩
      rw [Nat.mul_zero, Nat.zero_add, (toDigits_digit hc).2, List.replicate_succ', hzeros]
      rfl
    · refine ⟨zeros, ?_⟩
      rw [toDigits_concat (Nat.pos_of_ne_zero hzero) hc, ← List.append_assoc, ← hzeros]

theorem isDigit_of_mem_zeros_decimal {zeros : Nat} {c : Char}
    (h : c ∈ List.replicate zeros '0' ++ Nat.toDigits 10 n) : c.isDigit = true := by
  rcases List.mem_append.mp h with hzero | hdigit
  · rw [List.eq_of_mem_replicate hzero]
    rfl
  · exact isDigit_of_mem_decimal hdigit

/-! ## Reading -/

theorem readNat?_eq_some_iff : readNat? s = some n ↔
    ∃ zeros, s = List.replicate zeros '0' ++ Nat.toDigits 10 n := by
  rw [readNat?, Option.ite_none_right_eq_some, Option.some.injEq]
  constructor
  · rintro ⟨hdigits, rfl⟩
    simp only [isDigits, Bool.and_eq_true, Bool.not_eq_true', List.isEmpty_eq_false_iff,
      List.all_eq_true] at hdigits
    exact eq_zeros_decimal hdigits.1 hdigits.2
  · rintro ⟨zeros, rfl⟩
    have hne : List.replicate zeros '0' ++ Nat.toDigits 10 n ≠ [] :=
      List.append_ne_nil_of_right_ne_nil _ (decimal_ne_nil n)
    constructor
    · simp only [isDigits, Bool.and_eq_true, Bool.not_eq_true', List.isEmpty_eq_false_iff,
        List.all_eq_true]
      exact ⟨hne, fun c hc => isDigit_of_mem_zeros_decimal hc⟩
    · rw [ofDigits, Nat.ofDigitChars_append, Nat.ofDigitChars_replicate_zero, Nat.mul_zero]
      exact ofDigits_decimal n

/-- A number below a bound is read from its texts and from no other. -/
theorem readBelow?_eq_some_iff : readBelow? bound s = some n ↔ n < bound ∧ UnsignedText s n := by
  unfold readBelow?
  rw [Option.filter_eq_some_iff, decide_eq_true_eq, and_comm]
  refine and_congr_right fun _ => ?_
  split
  · next rest =>
    rw [readNat?_eq_some_iff]
    constructor
    · rintro ⟨zeros, rfl⟩
      exact ⟨['+'], zeros, .inr rfl, rfl⟩
    · rintro ⟨sign, zeros, rfl | rfl, hs⟩
      · -- a plus sign is no digit
        rw [List.nil_append] at hs
        cases isDigit_of_mem_zeros_decimal (hs ▸ List.mem_cons_self : '+' ∈ _)
      · exact ⟨zeros, (List.cons.inj hs).2⟩
  · next hplus =>
    rw [readNat?_eq_some_iff]
    constructor
    · rintro ⟨zeros, rfl⟩
      exact ⟨[], zeros, .inl rfl, rfl⟩
    · rintro ⟨sign, zeros, rfl | rfl, hs⟩
      · exact ⟨zeros, hs⟩
      · exact absurd hs (hplus _)

end SqlMapper.Number
