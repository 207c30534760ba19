import SqlMapper.Calendar.Reader
import SqlMapper.Text.Split
import SqlMapper.Value

/-!
# Coercing column values

A result delivers every value as text bytes. The type code of the column says which of them are read as
numbers, dates and times; the others stay as they are.

* `conversion?`: the conversion for a type code.
* `coerce`: a column's bytes as a value.
* `readInteger`: whole numbers, cut off at the point; those that do not fit stay text.
* `readTime`: times of day; longer and negative spans stay text.
-/

namespace SqlMapper

/-- A conversion of a column's text. -/
inductive Conversion where
  | integer
  | float
  | timestamp
  | date
  | time
deriving DecidableEq, Repr

/-- The conversion for a type code, if it has one (`conversion_for`). -/
def conversion? (typeCode : UInt8) : Option Conversion :=
  match typeCode.toNat with
  | 0 | 1 | 2 | 3 | 8 | 9 | 13 | 247 | 248 => some .integer
  | 4 | 5 => some .float
  | 7 | 12 => some .timestamp
  | 10 | 14 => some .date
  | 11 => some .time
  | _ => none

/-- Why a column's text does not convert. -/
inductive CoercionError where
  | notText
  | integer (text : List Char)
  | float (cause : Binary64.ReadError)
  | timestamp (cause : Calendar.ReadError)
  | date (cause : Calendar.ReadError)
  | time (text : List Char)
deriving DecidableEq

/-- The wording of a `CoercionError`. -/
def CoercionError.message : CoercionError → String
  | notText => "value is not valid UTF-8"
  | integer text => "invalid integer: '" ++ String.ofList text ++ "'"
  | float cause => "invalid float: " ++ cause.message
  | timestamp cause => "invalid timestamp: " ++ cause.message
  | date cause => "invalid date: " ++ cause.message
  | time text => "invalid time: '" ++ String.ofList text ++ "'"

/-! ## Whole numbers -/

/-- The part of a number before the point, with a zero for missing digits. What has anything but digits
    after the point is no number, and stays whole. -/
def wholePart (text : List Char) : List Char :=
  match Text.splitAtFirst '.' text with
  | (whole, some fraction) =>
    if fraction.all Char.isDigit then
      if whole = [] ∨ whole = ['+'] then ['0'] else if whole = ['-'] then ['-', '0'] else whole
    else text
  | (_, none) => text

/-- Digits without their sign. -/
def unsignedPart : List Char → List Char
  | '-' :: rest => rest
  | '+' :: rest => rest
  | s => s

/-- A whole number that fits 64 bits with a sign. -/
def int64? (n : Int) : Option Int64 :=
  if -9223372036854775808 ≤ n ∧ n < 9223372036854775808 then some (Int64.ofInt n) else none

/-- Reads a number as a whole one; what does not fit 64 bits stays text (`parse_integer`). -/
def readInteger (text : List Char) : Except CoercionError Value :=
  let whole := wholePart text
  if Number.isDigits (unsignedPart whole) then
    match (Number.readInt? whole).bind int64? with
    | some n => .ok (.integer n)
    | none => .ok (.text (String.ofList whole))
  else .error (.integer text)

/-! ## Times -/

/-- Whether a text is a number of at most `high`. -/
def isWithin (high : Nat) (s : List Char) : Bool := Number.isDigits s && Number.ofDigits s ≤ high

/-- Whether a text is a span of time that the server can hold: up to 838 hours, minutes and seconds of two
    digits, in either direction (`is_interval`). -/
def isSpan (text : List Char) : Bool :=
  let body := match text with
    | '-' :: rest => rest
    | _ => text
  let (clock, fraction) := Text.splitAtFirst '.' body
  (fraction.getD []).all Char.isDigit &&
    match Text.splitOn ':' clock with
    | [hours, minutes, seconds] =>
      isWithin 838 hours && minutes.length == 2 && isWithin 59 minutes && seconds.length == 2 &&
        isWithin 59 seconds
    | _ => false

/-- Reads a time of day; a longer or a negative span stays text (`parse_time`). -/
def readTime (text : List Char) : Except CoercionError Value :=
  match Calendar.readTime text with
  | .ok time => .ok (.time time)
  | .error _ => if isSpan text then .ok (.text (String.ofList text)) else .error (.time text)

/-! ## Timestamps -/

/-- Reads a timestamp, or a date as its midnight (`parse_timestamp`). The error is that of the second
    attempt. -/
def readTimestamp (text : List Char) : Except CoercionError Value :=
  match Calendar.readDateTime text with
  | .ok t => .ok (.timestamp t)
  | .error _ =>
    match Calendar.readDate text with
    | .ok d => .ok (.timestamp ⟨d, .midnight⟩)
    | .error e => .error (.timestamp e)

/-! ## All conversions -/

/-- Converts a column's text. -/
def Conversion.read (conversion : Conversion) (text : List Char) : Except CoercionError Value :=
  match conversion with
  | integer => readInteger text
  | float => ((Binary64.read? text).map Value.float).mapError .float
  | timestamp => readTimestamp text
  | date => ((Calendar.readDate text).map Value.date).mapError .date
  | time => readTime text

/-- A column's bytes as a value. No bytes are null; without a conversion they stay as they are;
    otherwise their text, without the blanks around it, is converted. -/
def coerce (raw : Option Bytes) (typeCode : UInt8) : Except CoercionError Value :=
  match raw with
  | none => .ok .null
  | some b =>
    match conversion? typeCode with
    | none => .ok (.ofRaw b)
    | some conversion =>
      match Bytes.decode? b with
      | none => .error .notText
      | some s => conversion.read (Text.trim s.toList)

end SqlMapper
