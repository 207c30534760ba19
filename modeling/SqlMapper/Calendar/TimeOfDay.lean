import SqlMapper.Calendar.Date

/-!
# Times of day and timestamps

A clock time in nanoseconds. The nanoseconds may run past the second for up to one more second: that is
a leap second. It is written as the second after it, so only a leap second at the end of a minute, which is
written as second 60, can be told from an ordinary second.

* `TimeOfDay.ofParts?`: a time by its parts; its leap seconds are those at the end of a minute.
* `TimeOfDay.text`: the text of a time.
-/

namespace SqlMapper

/-- Whether the numbers name a time of day. A leap second may follow any second. -/
def IsClockTime (hour minute second nanos : Nat) : Prop :=
  hour < 24 ∧ minute < 60 ∧ second < 60 ∧ nanos < 2000000000

instance (hour minute second nanos : Nat) : Decidable (IsClockTime hour minute second nanos) :=
  inferInstanceAs (Decidable (_ ∧ _))

/-- A time of day. -/
structure TimeOfDay where
  hour : Nat
  minute : Nat
  second : Nat
  nanos : Nat
  onClock : IsClockTime hour minute second nanos
deriving DecidableEq

namespace TimeOfDay

/-- The time with the given parts, if there is one. Of the leap seconds only those at the end of a minute
    are taken. -/
def ofParts? (hour minute second nanos : Nat) : Option TimeOfDay :=
  if h : IsClockTime hour minute second nanos then
    if nanos < 1000000000 ∨ second = 59 then some ⟨hour, minute, second, nanos, h⟩ else none
  else none

theorem ofParts?_of_onClock {hour minute second nanos : Nat}
    (onClock : IsClockTime hour minute second nanos) (h : nanos < 1000000000 ∨ second = 59) :
    ofParts? hour minute second nanos = some ⟨hour, minute, second, nanos, onClock⟩ := by
  rw [ofParts?, dif_pos onClock, if_pos h]

/-- The start of a day. -/
def midnight : TimeOfDay := ⟨0, 0, 0, 0, by decide⟩

/-- The nanoseconds of a second as a decimal fraction: none, or the fewest of 3, 6 and 9 digits that
    are exact. -/
def fractionText (nanos : Nat) : List Char :=
  if nanos = 0 then []
  else if nanos % 1000000 = 0 then '.' :: Number.padded 3 (nanos / 1000000)
  else if nanos % 1000 = 0 then '.' :: Number.padded 6 (nanos / 1000)
  else '.' :: Number.padded 9 nanos

/-- The time as hours, minutes and seconds with colons between, and the fraction if there is one. -/
def text (t : TimeOfDay) : List Char :=
  Number.padded 2 t.hour ++ ':' :: Number.padded 2 t.minute ++
    ':' :: Number.padded 2 (t.second + t.nanos / 1000000000) ++ fractionText (t.nanos % 1000000000)

end TimeOfDay

/-- A day and a time on it. -/
structure Timestamp where
  date : Date
  time : TimeOfDay
deriving DecidableEq

/-- Date and time with `separator` between. -/
def Timestamp.text (separator : Char) (t : Timestamp) : List Char :=
  t.date.text ++ separator :: t.time.text

end SqlMapper
