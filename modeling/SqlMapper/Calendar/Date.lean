import SqlMapper.Number.Decimal

/-!
# Dates

Days of the proleptic Gregorian calendar. A `Date` carries the proof that it names a day of the
calendar within the years that the library covers, so no operation has to check one again.
-/

namespace SqlMapper

/-- Every fourth year is a leap year, save the centuries that are no multiple of 400. -/
def isLeapYear (year : Int) : Bool := year % 4 == 0 && (year % 100 != 0 || year % 400 == 0)

/-- The number of days of a month; zero for a number that names no month. -/
def daysInMonth (year : Int) : Nat → Nat
  | 1 | 3 | 5 | 7 | 8 | 10 | 12 => 31
  | 4 | 6 | 9 | 11 => 30
  | 2 => if isLeapYear year then 29 else 28
  | _ => 0

/-- Whether a year, a month and a day name a day of the calendar. -/
def IsCalendarDay (year : Int) (month day : Nat) : Prop :=
  (-262143 ≤ year ∧ year ≤ 262142) ∧ (1 ≤ day ∧ day ≤ daysInMonth year month)

instance (year : Int) (month day : Nat) : Decidable (IsCalendarDay year month day) :=
  inferInstanceAs (Decidable (_ ∧ _))

/-- A day of the calendar. -/
structure Date where
  year : Int
  month : Nat
  day : Nat
  onCalendar : IsCalendarDay year month day
deriving DecidableEq

namespace Date

/-- The day with the given year, month and day of the month, if there is one. -/
def ofYmd? (year : Int) (month day : Nat) : Option Date :=
  if h : IsCalendarDay year month day then some ⟨year, month, day, h⟩ else none

@[simp] theorem ofYmd?_self (d : Date) : ofYmd? d.year d.month d.day = some d := by
  simp [ofYmd?, d.onCalendar]

/-- A year in at least four digits, with a sign if it is not one of the years 0 to 9999. -/
def yearText (year : Int) : List Char :=
  if 0 ≤ year ∧ year ≤ 9999 then Number.padded 4 year.toNat
  else (if year < 0 then '-' else '+') :: Number.padded 4 year.natAbs

/-- The date as year, month and day with dashes between. -/
def text (d : Date) : List Char :=
  yearText d.year ++ '-' :: Number.padded 2 d.month ++ '-' :: Number.padded 2 d.day

end Date

end SqlMapper
