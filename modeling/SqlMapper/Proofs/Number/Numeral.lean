import Mathlib.Algebra.Order.Floor.Semifield
import Mathlib.Data.Rat.Floor
import Mathlib.Tactic.FieldSimp
import Mathlib.Tactic.Linarith
import Mathlib.Tactic.NormNum
import SqlMapper.Number.Decimal

/-!
# Numbers as they are written

A number is written as digits, of any length, after an optional sign and with an optional point. Such a
text stands for a rational number, which is exact: no digit of it is lost.

* `ofDigits_append`, `ofDigits_lt`: the number that digits stand for, by their places.
* `fractionValue`: digits after a point. `floor_fractionValue`: as many of them as a unit has places.
* `Numeral`, `Numeral.value`: numbers as they are written, and what they stand for.
* `Numeral.truncated_eq`: without its fraction a number is its whole part, with its sign.
* `Numeral.ofInt`: whole numbers as the library writes them.
-/

namespace SqlMapper.Number

variable {ds es : List Char}

/-! ## Digits -/

theorem isDigits_iff : isDigits ds = true ↔ ds ≠ [] ∧ ∀ c ∈ ds, c.isDigit = true := by
  simp [isDigits]

theorem ofDigits_append (ds es : List Char) :
    ofDigits (ds ++ es) = ofDigits ds * 10 ^ es.length + ofDigits es := by
  show Nat.ofDigitChars 10 (ds ++ es) 0 = _
  rw [Nat.ofDigitChars_append, Nat.ofDigitChars_eq_ofDigitChars_zero, Nat.mul_comm]
  rfl

theorem ofDigits_singleton_lt {c : Char} (h : c.isDigit = true) : ofDigits [c] < 10 := by
  have hc : '0'.toNat ≤ c.toNat ∧ c.toNat ≤ '9'.toNat := Char.isDigit_iff_toNat.mp h
  have hhigh : c.toNat ≤ 57 := hc.2
  show 10 * 0 + (c.toNat - 48) < 10
  omega

/-- Digits stand for less than one unit of the place before them. -/
theorem ofDigits_lt (h : ∀ c ∈ ds, c.isDigit = true) : ofDigits ds < 10 ^ ds.length := by
  induction ds with
  | nil => decide
  | cons c ds ih =>
    obtain ⟨hc, hds⟩ := List.forall_mem_cons.mp h
    have hfirst : ofDigits [c] + 1 ≤ 10 := ofDigits_singleton_lt hc
    have hrest := ih hds
    calc ofDigits (c :: ds) = ofDigits [c] * 10 ^ ds.length + ofDigits ds := ofDigits_append [c] ds
      _ < ofDigits [c] * 10 ^ ds.length + 10 ^ ds.length := by omega
      _ = (ofDigits [c] + 1) * 10 ^ ds.length := by rw [Nat.succ_mul]
      _ ≤ 10 * 10 ^ ds.length := Nat.mul_le_mul_right _ hfirst
      _ = 10 ^ (c :: ds).length := by rw [List.length_cons, Nat.pow_succ, Nat.mul_comm]

/-! ## Digits after a point -/

/-- The number that digits after a point stand for. -/
def fractionValue (ds : List Char) : ℚ := ofDigits ds / 10 ^ ds.length

theorem fractionValue_nonneg (ds : List Char) : 0 ≤ fractionValue ds := by
  unfold fractionValue
  positivity

theorem fractionValue_lt_one (h : ∀ c ∈ ds, c.isDigit = true) : fractionValue ds < 1 := by
  have hlt : (ofDigits ds : ℚ) < 10 ^ ds.length := by exact_mod_cast ofDigits_lt h
  rw [fractionValue, div_lt_one (by positivity)]
  exact hlt

/-- A fraction in units of so many places: the digits that it has there, with zeros for those that are
    missing. Further digits are cut off. -/
theorem floor_fractionValue (h : ∀ c ∈ ds, c.isDigit = true) (places : ℕ) :
    ⌊fractionValue ds * 10 ^ places⌋₊ =
      ofDigits (ds.take places) * 10 ^ (places - (ds.take places).length) := by
  have hfloor : ⌊fractionValue ds * 10 ^ places⌋₊ = ofDigits ds * 10 ^ places / 10 ^ ds.length := by
    rw [← Nat.floor_div_eq_div (K := ℚ), fractionValue]
    push_cast
    rw [div_mul_eq_mul_div]
  rw [hfloor]
  rcases Nat.le_total ds.length places with hle | hle
  · have hpow : 10 ^ places = 10 ^ (places - ds.length) * 10 ^ ds.length := by
      rw [← Nat.pow_add, Nat.sub_add_cancel hle]
    rw [List.take_of_length_le hle, hpow, ← Nat.mul_assoc, Nat.mul_div_cancel _ (by positivity)]
  · have hlength : ds.length = (ds.drop places).length + places := by
      rw [List.length_drop]
      omega
    have hrest : ofDigits (ds.drop places) < 10 ^ (ds.drop places).length :=
      ofDigits_lt fun c hc => h c (List.mem_of_mem_drop hc)
    have hvalue : ofDigits ds =
        ofDigits (ds.take places) * 10 ^ (ds.drop places).length + ofDigits (ds.drop places) := by
      rw [← ofDigits_append, List.take_append_drop]
    have hpow : 10 ^ ds.length = 10 ^ (ds.drop places).length * 10 ^ places := by
      rw [← Nat.pow_add, ← hlength]
    rw [hpow, Nat.mul_div_mul_right _ _ (by positivity), hvalue, Nat.add_comm, Nat.mul_comm,
      Nat.add_mul_div_left _ _ (by positivity), Nat.div_eq_of_lt hrest, Nat.zero_add,
      List.length_take_of_le hle, Nat.sub_self, Nat.pow_zero, Nat.mul_one]

/-! ## Numbers without their fraction -/

/-- A number cut off at the point: the next whole number towards zero. -/
def truncate (x : ℚ) : ℤ := if 0 ≤ x then ⌊x⌋ else ⌈x⌉

theorem truncate_of_nonneg {x : ℚ} (h : 0 ≤ x) : truncate x = ⌊x⌋ := if_pos h

theorem truncate_neg {x : ℚ} (h : 0 ≤ x) : truncate (-x) = -⌊x⌋ := by
  unfold truncate
  by_cases hx : 0 ≤ -x
  · have hzero : x = 0 := by linarith
    rw [if_pos hx, hzero]
    simp
  · rw [if_neg hx, Int.ceil_neg]

theorem floor_add_of_lt_one {x : ℚ} (whole : ℕ) (h : 0 ≤ x) (hlt : x < 1) : ⌊(whole : ℚ) + x⌋ = whole := by
  rw [Int.floor_eq_iff]
  push_cast
  constructor
  · linarith
  · linarith

/-! ## Numerals -/

/-- What stands before the digits of a number. -/
inductive Sign where
  | absent
  | plus
  | minus
deriving DecidableEq

namespace Sign

def text : Sign → List Char
  | absent => []
  | plus => ['+']
  | minus => ['-']

/-- A magnitude with its sign. -/
def apply {α : Type} [Neg α] : Sign → α → α
  | minus, x => -x
  | _, x => x

theorem point_not_mem_text (sign : Sign) : '.' ∉ sign.text := by
  cases sign
  all_goals decide

theorem isDigit_of_mem_text (sign : Sign) {c : Char} (h : c ∈ sign.text) : c.isDigit = false := by
  cases sign with
  | absent => cases h
  | plus =>
    rw [List.mem_singleton.mp h]
    rfl
  | minus =>
    rw [List.mem_singleton.mp h]
    rfl

end Sign

/-- Digits after a point, if there is one. -/
def pointed : Option (List Char) → List Char
  | some ds => '.' :: ds
  | none => []

theorem mem_pointed {ds? : Option (List Char)} {c : Char} (h : c ∈ ds?.getD []) : c ∈ pointed ds? := by
  cases ds? with
  | none => cases h
  | some ds => exact List.mem_cons_of_mem '.' h

/-- A number as it is written. There may be no digits before the point, or none after it, but there is one
    at least. -/
structure Numeral where
  sign : Sign
  whole : List Char
  fraction? : Option (List Char)
  whole_digits : ∀ c ∈ whole, c.isDigit = true
  fraction_digits : ∀ c ∈ fraction?.getD [], c.isDigit = true
  has_digit : whole ++ fraction?.getD [] ≠ []

namespace Numeral

/-- The part before the point. -/
def front (n : Numeral) : List Char := n.sign.text ++ n.whole

def text (n : Numeral) : List Char := n.front ++ pointed n.fraction?

theorem exists_digit (n : Numeral) : ∃ c, c.isDigit = true ∧ c ∈ n.text := by
  obtain ⟨c, rest, hcons⟩ := List.exists_cons_of_ne_nil n.has_digit
  have hmem : c ∈ n.whole ++ n.fraction?.getD [] := hcons ▸ List.mem_cons_self
  rcases List.mem_append.mp hmem with hc | hc
  · exact ⟨c, n.whole_digits c hc, List.mem_append_left _ (List.mem_append_right _ hc)⟩
  · exact ⟨c, n.fraction_digits c hc, List.mem_append_right _ (mem_pointed hc)⟩

theorem forall_isDigit_of_fraction {n : Numeral} (h : n.fraction? = some ds) :
    ∀ c ∈ ds, c.isDigit = true := by
  have hdigits := n.fraction_digits
  rwa [h] at hdigits

/-- The number that a numeral stands for. -/
def value (n : Numeral) : ℚ :=
  n.sign.apply ((ofDigits n.whole : ℚ) + fractionValue (n.fraction?.getD []))

/-- The number cut off at the point. -/
def truncated (n : Numeral) : ℤ := truncate n.value

/-- What is left is the whole part, with its sign. -/
theorem truncated_eq (n : Numeral) : n.truncated = n.sign.apply (ofDigits n.whole : ℤ) := by
  have hnonneg := fractionValue_nonneg (n.fraction?.getD [])
  have hfloor := floor_add_of_lt_one (ofDigits n.whole) hnonneg (fractionValue_lt_one n.fraction_digits)
  have hvalue : (0 : ℚ) ≤ (ofDigits n.whole : ℚ) + fractionValue (n.fraction?.getD []) := by
    positivity
  unfold truncated value
  cases n.sign with
  | absent => exact (truncate_of_nonneg hvalue).trans hfloor
  | plus => exact (truncate_of_nonneg hvalue).trans hfloor
  | minus =>
    show truncate (-_) = -_
    rw [truncate_neg hvalue, hfloor]

/-! ## Whole numbers -/

/-- A whole number: digits, after a minus sign where it is needed. -/
def ofInt (z : ℤ) : Numeral where
  sign := if z < 0 then .minus else .absent
  whole := decimal z.natAbs
  fraction? := none
  whole_digits := fun _ hc => isDigit_of_mem_decimal hc
  fraction_digits := by
    intro c hc
    cases hc
  has_digit := List.append_ne_nil_of_left_ne_nil (decimal_ne_nil _) _

theorem text_ofInt (z : ℤ) : (ofInt z).text = signed z := by
  cases z with
  | ofNat n =>
    have hsign : ¬ (n : ℤ) < 0 := by omega
    simp [text, front, ofInt, hsign, Sign.text, pointed, signed]
  | negSucc n =>
    have hsign : Int.negSucc n < 0 := Int.negSucc_lt_zero n
    simp [text, front, ofInt, hsign, Sign.text, pointed, signed]

theorem front_ofInt (z : ℤ) : (ofInt z).front = signed z := by
  rw [← text_ofInt, text, ofInt, pointed, List.append_nil]

theorem truncated_ofInt (z : ℤ) : (ofInt z).truncated = z := by
  rw [truncated_eq]
  by_cases h : z < 0
  · simp only [ofInt, h, if_true, Sign.apply, ofDigits_decimal]
    omega
  · simp only [ofInt, h, if_false, Sign.apply, ofDigits_decimal]
    omega

end Numeral

end SqlMapper.Number
