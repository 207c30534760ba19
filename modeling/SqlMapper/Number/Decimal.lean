/-!
# Whole numbers in decimal

Writing and reading whole numbers. A reading function takes the whole text or nothing.

* `readNat?_decimal`, `readBelow?_decimal`: a written number reads back.
* `padded`: at least a given number of digits, filled up with zeros.
* `ofDigits_padded`, `length_padded`: the zeros change nothing, and there are no more than are needed.
-/

namespace SqlMapper.Number

/-! ## Writing -/

/-- A natural number in decimal digits. -/
def decimal (n : Nat) : List Char := Nat.toDigits 10 n

/-- A whole number: a minus sign where it is needed, then digits. -/
def signed : Int → List Char
  | .ofNat n => decimal n
  | .negSucc n => '-' :: decimal (n + 1)

/-- At least `width` digits. -/
def padded (width n : Nat) : List Char :=
  let digits := decimal n
  List.replicate (width - digits.length) '0' ++ digits

/-! ## Reading -/

/-- Whether a text is made of digits, at least one. -/
def isDigits (s : List Char) : Bool := !s.isEmpty && s.all Char.isDigit

/-- The number that digits stand for. -/
def ofDigits (s : List Char) : Nat := Nat.ofDigitChars 10 s 0

/-- Reads digits. -/
def readNat? (s : List Char) : Option Nat := if isDigits s then some (ofDigits s) else none

/-- Reads digits after an optional plus sign, as long as the number is below `bound`. -/
def readBelow? (bound : Nat) (s : List Char) : Option Nat :=
  let digits := match s with
    | '+' :: rest => rest
    | _ => s
  (readNat? digits).filter (· < bound)

/-- Reads digits after an optional sign. -/
def readInt? : List Char → Option Int
  | '-' :: rest => (readNat? rest).map fun n => -(n : Int)
  | '+' :: rest => (readNat? rest).map Int.ofNat
  | s => (readNat? s).map Int.ofNat

/-! ## Reading what was written -/

theorem isDigit_of_mem_decimal {n : Nat} {c : Char} (h : c ∈ decimal n) : c.isDigit = true :=
  Nat.isDigit_of_mem_toDigits (by decide) (by decide) h

theorem decimal_ne_nil (n : Nat) : decimal n ≠ [] := Nat.toDigits_ne_nil

theorem isDigits_decimal (n : Nat) : isDigits (decimal n) = true := by
  simp only [isDigits, Bool.and_eq_true, Bool.not_eq_true', List.isEmpty_eq_false_iff, ne_eq,
    List.all_eq_true]
  exact ⟨decimal_ne_nil n, fun c hc => isDigit_of_mem_decimal hc⟩

@[simp] theorem ofDigits_decimal (n : Nat) : ofDigits (decimal n) = n :=
  Nat.ofDigitChars_ten_toDigits

@[simp] theorem readNat?_decimal (n : Nat) : readNat? (decimal n) = some n := by
  simp [readNat?, isDigits_decimal]

theorem readBelow?_decimal {bound n : Nat} (h : n < bound) : readBelow? bound (decimal n) = some n := by
  have unsigned : ∀ rest, decimal n ≠ '+' :: rest := by
    intro rest heq
    have digit : '+'.isDigit = true := isDigit_of_mem_decimal (heq ▸ List.mem_cons_self)
    exact absurd digit (by decide)
  unfold readBelow?
  split
  · next rest heq => exact absurd heq (unsigned rest)
  · simp [h]

/-! ## Padded numbers -/

theorem isDigit_of_mem_padded {width n : Nat} {c : Char} (h : c ∈ padded width n) :
    c.isDigit = true := by
  rcases List.mem_append.mp h with hzero | hdigit
  · rw [List.eq_of_mem_replicate hzero]
    decide
  · exact isDigit_of_mem_decimal hdigit

theorem padded_ne_nil (width n : Nat) : padded width n ≠ [] :=
  List.append_ne_nil_of_right_ne_nil _ (decimal_ne_nil n)

/-- The zeros in front do not count. -/
@[simp] theorem ofDigits_padded (width n : Nat) : ofDigits (padded width n) = n := by
  show Nat.ofDigitChars 10 (List.replicate _ '0' ++ decimal n) 0 = n
  rw [Nat.ofDigitChars_append, Nat.ofDigitChars_replicate_zero, Nat.mul_zero]
  exact ofDigits_decimal n

theorem length_padded {width n : Nat} (hpos : 0 < width) (h : n < Nat.pow 10 width) :
    (padded width n).length = width := by
  have hle : (decimal n).length ≤ width := (Nat.length_toDigits_le_iff (by decide) hpos).mpr h
  show (List.replicate _ '0' ++ decimal n).length = width
  rw [List.length_append, List.length_replicate]
  omega

end SqlMapper.Number
