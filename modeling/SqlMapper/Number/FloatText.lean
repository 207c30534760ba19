import SqlMapper.Number.Binary64

/-!
# Floating point numbers as text

The two written forms of a number, both with the shortest digits, and the grammar it is read in.

* `Binary64.plain`: positional, whatever the size; whole numbers have no point, ties go up.
* `Binary64.json`: positional from `10⁻⁵` up to `10¹⁵`, with a point; otherwise with an exponent.
  Ties go to the even digit.
* `Binary64.read?`: an optional sign, digits with an optional point, an optional exponent; or a name.
-/

namespace SqlMapper.Binary64

/-! ## Writing -/

/-- Digits written out in full, with `fraction` after them if they end before the point. -/
def Digits.positional (d : Digits) (fraction : List Char) : List Char :=
  if d.exponent < 0 then
    ['0', '.'] ++ List.replicate (-d.exponent - 1).toNat '0' ++ d.digits
  else
    let whole := d.exponent.toNat + 1
    let head := d.digits.take whole
    let tail := d.digits.drop whole
    head ++ List.replicate (whole - head.length) '0' ++
      (if tail.isEmpty then fraction else '.' :: tail)

/-- Digits with an exponent, which has a sign in either direction. -/
def Digits.scientific (d : Digits) : List Char :=
  let tail := d.digits.drop 1
  d.digits.take 1 ++ (if tail.isEmpty then [] else '.' :: tail) ++
    ['e', if d.exponent < 0 then '-' else '+'] ++ Number.decimal d.exponent.natAbs

/-- A sign if the number is negative. -/
def sign (x : Binary64) : List Char := if x.negative then ['-'] else []

/-- The positional text of a number, and names for what is not finite. -/
def plain (x : Binary64) : List Char :=
  if x.isNaN then ['N', 'a', 'N']
  else if x.isInfinite then x.sign ++ ['i', 'n', 'f']
  else if x.isZero then x.sign ++ ['0']
  else x.sign ++ (x.shortest .upper).positional []

/-- The JSON text of a number; what is not finite is `null`. -/
def json (x : Binary64) : List Char :=
  if !x.isFinite then ['n', 'u', 'l', 'l']
  else if x.isZero then x.sign ++ ['0', '.', '0']
  else
    let d := x.shortest .even
    x.sign ++
      (if -5 ≤ d.exponent ∧ d.exponent ≤ 15 then d.positional ['.', '0'] else d.scientific)

/-! ## Reading -/

/-- Why a text is no number. -/
inductive ReadError where
  | empty
  | malformed
deriving DecidableEq

/-- The wording of a `ReadError`. -/
def ReadError.message : ReadError → String
  | .empty => "cannot parse float from empty string"
  | .malformed => "invalid float literal"

/-- Splits off an optional sign. -/
def splitSign : List Char → Bool × List Char
  | '-' :: rest => (true, rest)
  | '+' :: rest => (false, rest)
  | s => (false, s)

/-- The exponent after a mantissa: nothing, or a marked signed number. -/
def readExponent? : List Char → Option Int
  | [] => some 0
  | c :: rest => if c = 'e' ∨ c = 'E' then Number.readInt? rest else none

/-- Reads digits with an optional point and an optional exponent. -/
def readDecimal? (negative : Bool) (s : List Char) : Option Binary64 :=
  let whole := s.takeWhile Char.isDigit
  let rest := s.dropWhile Char.isDigit
  let (fraction, rest) := match rest with
    | '.' :: after => (after.takeWhile Char.isDigit, after.dropWhile Char.isDigit)
    | _ => ([], rest)
  if whole.isEmpty && fraction.isEmpty then none
  else (readExponent? rest).map fun e =>
    ofDecimal negative (Number.ofDigits (whole ++ fraction)) (e - fraction.length)

/-- Reads a number: a decimal, `inf`, `infinity` or `nan` in any case, each with an optional sign. -/
def read? (s : List Char) : Except ReadError Binary64 :=
  if s.isEmpty then .error .empty
  else
    let (negative, body) := splitSign s
    let name := body.map Char.toLower
    if name = ['n', 'a', 'n'] then .ok nan
    else if name = ['i', 'n', 'f'] ∨ name = "infinity".toList then .ok (infinity negative)
    else match readDecimal? negative body with
      | some x => .ok x
      | none => .error .malformed

end SqlMapper.Binary64
