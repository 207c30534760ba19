import SqlMapper.Number.Decimal

/-!
# Binary floating point numbers of 64 bits

A number is its bit pattern. A finite one has the value `± mantissa · 2 ^ exponent`, and all
arithmetic on it here is exact arithmetic on naturals.

* `Binary64.nearest`: the number nearest to a ratio of naturals, a tie going to the even mantissa.
* `Binary64.shortest`: the fewest decimal digits that read back as the number, the nearest of those
  and in a tie the one that a `Tie` names.
-/

namespace SqlMapper

/-- A floating point number as its bit pattern: sign, 11 bits of exponent, 52 bits of mantissa. -/
structure Binary64 where
  bits : UInt64
deriving DecidableEq

namespace Binary64

/-! ## Bit patterns -/

/-- The unit of the exponent field, and the leading bit of the mantissa of a normal number. -/
def leadingBit : Nat := 0x10000000000000

/-- The unit of the sign. -/
def signBit : Nat := 0x8000000000000000

/-- The sign bit. -/
def negative (x : Binary64) : Bool := x.bits.toNat ≥ signBit

/-- The exponent field. -/
def exponentField (x : Binary64) : Nat := x.bits.toNat / leadingBit % 2048

/-- The mantissa field. -/
def mantissaField (x : Binary64) : Nat := x.bits.toNat % leadingBit

/-- Puts the three fields together. -/
def ofFields (negative : Bool) (exponent mantissa : Nat) : Binary64 :=
  ⟨UInt64.ofNat ((if negative then signBit else 0) + exponent * leadingBit + mantissa)⟩

/-- Zero of either sign. -/
def zero (negative : Bool) : Binary64 := ofFields negative 0 0

/-- Infinity of either sign. -/
def infinity (negative : Bool) : Binary64 := ofFields negative 2047 0

/-- The value that is not a number. -/
def nan : Binary64 := ofFields false 2047 (leadingBit / 2)

def isNaN (x : Binary64) : Bool := x.exponentField == 2047 && x.mantissaField != 0

def isInfinite (x : Binary64) : Bool := x.exponentField == 2047 && x.mantissaField == 0

def isFinite (x : Binary64) : Bool := x.exponentField != 2047

def isZero (x : Binary64) : Bool := x.exponentField == 0 && x.mantissaField == 0

/-- The mantissa of a finite number, with the leading bit that normal numbers leave out. -/
def mantissa (x : Binary64) : Nat :=
  if x.exponentField = 0 then x.mantissaField else leadingBit + x.mantissaField

/-- The exponent of a finite number. -/
def exponent (x : Binary64) : Int := (max x.exponentField 1 : Nat) - 1075

/-- Equality of values: zeros are equal whatever their sign, and what is not a number equals
    nothing. -/
def valueEq (x y : Binary64) : Bool :=
  !x.isNaN && !y.isNaN && (x.bits == y.bits || (x.isZero && y.isZero))

/-! ## Rounding -/

/-- A quotient rounded to the nearest natural, a half to the even one. -/
def roundHalfEven (num den : Nat) : Nat :=
  let q := num / den
  let r := num % den
  if 2 * r < den then q else if den < 2 * r then q + 1 else q + q % 2

/-- The quotient `num / den`, scaled by `2 ^ -e` and rounded. -/
def roundScaled (num den : Nat) (e : Int) : Nat :=
  if 0 ≤ e then roundHalfEven num (den * Nat.pow 2 e.toNat)
  else roundHalfEven (num * Nat.pow 2 (-e).toNat) den

/-- The number nearest to `± num / den`. The exponent is the one that leaves 53 bits, but never less
    than the least exponent; what is too large becomes infinite. -/
def nearest (negative : Bool) (num den : Nat) : Binary64 :=
  if num = 0 then zero negative
  else
    let guess : Int := (num.log2 : Int) - den.log2
    -- the greatest power of two that is at most the quotient
    let atLeast : Bool :=
      if 0 ≤ guess then den * Nat.pow 2 guess.toNat ≤ num
      else den ≤ num * Nat.pow 2 (-guess).toNat
    let top := if atLeast then guess else guess - 1
    let e := max (top - 52) (-1074)
    let m := roundScaled num den e
    let (m, e) := if m = 2 * leadingBit then (leadingBit, e + 1) else (m, e)
    if e > 971 then infinity negative
    else if m < leadingBit then ofFields negative 0 m
    else ofFields negative (e + 1075).toNat (m - leadingBit)

/-- The number nearest to `± digits · 10 ^ e`. Beyond 400 places on either side the answer is infinity
    or zero without any power being formed. -/
def ofDecimal (negative : Bool) (digits : Nat) (e : Int) : Binary64 :=
  if digits = 0 then zero negative
  else
    let places : Int := (Number.decimal digits).length + e
    if places > 400 then infinity negative
    else if places < -400 then zero negative
    else if 0 ≤ e then nearest negative (digits * Nat.pow 10 e.toNat) 1
    else nearest negative digits (Nat.pow 10 (-e).toNat)

/-! ## Shortest digits -/

/-- Decimal digits with the place of the first one: `d₁.d₂d₃… · 10 ^ exponent`. -/
structure Digits where
  digits : List Char
  exponent : Int
deriving DecidableEq

/-- The bounds of the decimals that read as a positive number, as four times the mantissa unit: the
    midpoints to its neighbours, which count if the mantissa is even. -/
structure Interval where
  low : Nat
  value : Nat
  high : Nat
  closed : Bool
  /-- The common denominator, and the power of two that is still to be multiplied in. -/
  exponent : Int

/-- The interval of a finite number other than zero. Below a power of two the numbers lie twice as
    close, so there the lower midpoint is half as far away. -/
def interval (x : Binary64) : Interval :=
  let m := x.mantissa
  let low := if m = leadingBit ∧ 1 < x.exponentField then 4 * m - 1 else 4 * m - 2
  ⟨low, 4 * m, 4 * m + 2, m % 2 == 0, x.exponent - 2⟩

/-- Whether `num / den` lies in the interval, both sides scaled alike. -/
def Interval.holds (i : Interval) (num den : Nat) : Bool :=
  if i.closed then i.low * den ≤ num && num ≤ i.high * den
  else i.low * den < num && num < i.high * den

/-- Which of two decimals stands for a number that lies half way between them. -/
inductive Tie where
  | upper
  | even
deriving DecidableEq

/-- Whether a number half way above a decimal is written as that decimal. -/
def Tie.staysBelow (tie : Tie) (below : Nat) : Bool :=
  match tie with
  | .upper => false
  | .even => below % 2 == 0

/-- The neighbour of the value on the decimal grid with unit `10 ^ place` that lies in the interval,
    the nearer one if both do. -/
def gridPoint? (tie : Tie) (i : Interval) (place : Int) : Option Nat :=
  -- `value · 2 ^ exponent = v` and `10 ^ place = unit / scale`
  let two := i.exponent
  let num := Nat.pow 2 two.toNat * Nat.pow 10 (-place).toNat
  let den := Nat.pow 2 (-two).toNat * Nat.pow 10 place.toNat
  let v := i.value * num
  let below := v / den
  let above := below + 1
  let inBelow := below ≠ 0 ∧ i.holds (below * den) num
  let inAbove := i.holds (above * den) num
  if inBelow then
    if inAbove then
      let up := v - below * den
      let down := above * den - v
      some (if up < down ∨ (up = down ∧ tie.staysBelow below) then below else above)
    else some below
  else if inAbove then some above else none

/-- The decimal exponent of the first digit of `value · 2 ^ exponent`. -/
def leadingPlace (value : Nat) (two : Int) : Int :=
  let num := value * Nat.pow 2 two.toNat
  let den := Nat.pow 2 (-two).toNat
  let guess : Int := (Number.decimal num).length - (Number.decimal den).length
  let atLeast : Bool :=
    if 0 ≤ guess then den * Nat.pow 10 guess.toNat ≤ num
    else den ≤ num * Nat.pow 10 (-guess).toNat
  if atLeast then guess else guess - 1

/-- The digits of a grid point, without the zeros at their end. -/
def Digits.ofGrid (point : Nat) (place : Int) : Digits :=
  let all := Number.decimal point
  ⟨(all.reverse.dropWhile (· == '0')).reverse, place + all.length - 1⟩

/-- The fewest digits, from `n` of at most 17 on, whose grid meets the interval. -/
def shortestFrom (tie : Tie) (i : Interval) (lead : Int) : Nat → Nat → Digits
  | n, 0 => .ofGrid ((gridPoint? tie i (lead - n + 1)).getD 0) (lead - n + 1)
  | n, more + 1 =>
    match gridPoint? tie i (lead - n + 1) with
    | some point => .ofGrid point (lead - n + 1)
    | none => shortestFrom tie i lead (n + 1) more

/-- The fewest digits that read back as a finite number other than zero, and of those the nearest. -/
def shortest (x : Binary64) (tie : Tie) : Digits :=
  let i := x.interval
  shortestFrom tie i (leadingPlace i.value i.exponent) 1 16

end Binary64

end SqlMapper
