import SqlMapper.Calendar.TimeOfDay
import SqlMapper.Text.Blank

/-!
# Reading dates and times

Dates are read as year, month and day with dashes, times as hours, minutes and seconds with colons and
an optional fraction, timestamps as both with any blanks between, even none. A number may have blanks
before it. A year without a sign has at most four digits, one with a sign has any number; the other
parts have one or two. Second 60 is a leap second, and digits of a fraction after the ninth have no
effect.

A part that is out of its range is refused where it is read; whether the three parts of a date name a
day is decided once the whole text has been read.
-/

namespace SqlMapper.Calendar

/-- Why a text is no date or time. -/
inductive ReadError where
  | outOfRange
  | unexpected
  | tooShort
  | trailing
deriving DecidableEq

/-- The wording of a `ReadError`. -/
def ReadError.message : ReadError → String
  | .outOfRange => "input is out of range"
  | .unexpected => "input contains invalid characters"
  | .tooShort => "premature end of input"
  | .trailing => "trailing input"

/-- Reads from the front of a text, and leaves what follows. -/
abbrev Reader := StateT (List Char) (Except ReadError)

namespace Reader

/-- A character that has to stand here. -/
def literal (c : Char) : Reader Unit := fun
  | [] => .error .tooShort
  | d :: rest => if d = c then .ok ((), rest) else .error .unexpected

/-- The digits at the front of a text, at most `limit` of them if there is a limit. -/
def leadingDigits (limit : Option Nat) (s : List Char) : List Char :=
  match limit with
  | some n => (s.take n).takeWhile Char.isDigit
  | none => s.takeWhile Char.isDigit

/-- A number of at least one digit. -/
def digits (limit : Option Nat) : Reader (List Char) := fun s =>
  if s.isEmpty then .error .tooShort
  else
    let ds := leadingDigits limit s
    if ds.isEmpty then .error .unexpected else .ok (ds, s.drop ds.length)

/-- Blanks, if there are any. -/
def blanks : Reader Unit := fun s => .ok ((), Text.trimStart s)

/-- A number of one or two digits within bounds. -/
def part (low high : Nat) : Reader Nat := do
  blanks
  let n := Number.ofDigits (← digits (some 2))
  if low ≤ n ∧ n ≤ high then return n else throw .outOfRange

/-- A year that fits 32 bits. -/
def year : Reader Int := do
  blanks
  let y : Int ← match ← get with
    | '-' :: rest => do
      set rest
      pure (-(Number.ofDigits (← digits none) : Int))
    | '+' :: rest => do
      set rest
      pure (Number.ofDigits (← digits none) : Int)
    | _ => do pure (Number.ofDigits (← digits (some 4)) : Int)
  if -2147483648 ≤ y ∧ y ≤ 2147483647 then return y else throw .outOfRange

/-- A fraction of a second in nanoseconds; zero if there is no point. -/
def fraction : Reader Nat := do
  match ← get with
  | '.' :: rest =>
    set rest
    let ds ← digits (some 9)
    modify (·.dropWhile Char.isDigit)
    return Number.ofDigits ds * Nat.pow 10 (9 - ds.length)
  | _ => return 0

/-- Year, month and day. -/
def ymd : Reader (Int × Nat × Nat) := do
  let y ← year
  literal '-'
  let m ← part 1 12
  literal '-'
  let d ← part 1 31
  return (y, m, d)

/-- The time of day with second 60 as the leap second of second 59. -/
def clock : Reader TimeOfDay := do
  let h ← part 0 23
  literal ':'
  let m ← part 0 59
  literal ':'
  let s ← part 0 60
  let nanos ← fraction
  let time? := if s = 60 then TimeOfDay.ofParts? h m 59 (1000000000 + nanos)
    else TimeOfDay.ofParts? h m s nanos
  match time? with
  | some time => return time
  | none => throw .outOfRange

/-- Runs a reader over a whole text. -/
def whole {α : Type} (r : Reader α) (s : List Char) : Except ReadError α :=
  match r s with
  | .ok (a, []) => .ok a
  | .ok (_, _ :: _) => .error .trailing
  | .error e => .error e

end Reader

/-- The day of a year, a month and a day, if they name one. -/
def resolve : Int × Nat × Nat → Except ReadError Date
  | (y, m, d) =>
    match Date.ofYmd? y m d with
    | some date => .ok date
    | none => .error .outOfRange

/-- Reads a date. -/
def readDate (s : List Char) : Except ReadError Date :=
  (Reader.whole Reader.ymd s).bind resolve

/-- Reads a time of day. -/
def readTime (s : List Char) : Except ReadError TimeOfDay := Reader.whole Reader.clock s

/-- Date and time with blanks between. -/
def Reader.dateTime : Reader ((Int × Nat × Nat) × TimeOfDay) := do
  let day ← ymd
  blanks
  let time ← clock
  return (day, time)

/-- Reads a date and a time of day. -/
def readDateTime (s : List Char) : Except ReadError Timestamp := do
  let (day, time) ← Reader.whole Reader.dateTime s
  return ⟨← resolve day, time⟩

end SqlMapper.Calendar
