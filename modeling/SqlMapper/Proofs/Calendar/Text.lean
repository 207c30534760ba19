import SqlMapper.Calendar.TimeOfDay
import SqlMapper.Proofs.Text.Blank

/-!
# Texts of dates and times

The texts of dates, times of day and timestamps begin and end with a digit, or begin with a sign. Digits
and a few signs are all that stands in them.

* `TimeOfDay.shown`: the time that a text of a time shows.
* `Timestamp.trimmed_text`: no blanks around the text.
* `Foreign`, `Timestamp.not_mem_text`: characters that do not stand in the text.
-/

namespace SqlMapper

open Number (padded)
open Text (Trimmed trimmed_digits)

/-- A character that is neither a digit nor a sign of a date or a time. -/
structure Calendar.Foreign (c : Char) : Prop where
  digit : c.isDigit = false
  sign : c ∉ ['+', '-', ' ', ':', '.']

theorem Calendar.foreign_quote : Foreign '\'' := ⟨rfl, by decide⟩

theorem Calendar.foreign_backslash : Foreign '\\' := ⟨rfl, by decide⟩

open Calendar (Foreign)

variable {c : Char}

/-! ## Numbers -/

theorem Number.trimmed_padded (width n : Nat) : Trimmed (padded width n) :=
  trimmed_digits (Number.padded_ne_nil width n) fun _ hc => Number.isDigit_of_mem_padded hc

theorem Number.not_mem_padded (hc : c.isDigit = false) (width n : Nat) : c ∉ padded width n := by
  intro h
  rw [isDigit_of_mem_padded h] at hc
  cases hc

/-! ## Dates -/

theorem Date.trimmed_yearText (year : Int) : Trimmed (yearText year) := by
  unfold yearText
  split
  · exact Number.trimmed_padded 4 _
  · split
    all_goals exact (Number.trimmed_padded 4 _).cons (by decide)

theorem Date.trimmed_text (d : Date) : Trimmed d.text := by
  have around := (trimmed_yearText d.year).around ('-' :: padded 2 d.month ++ ['-'])
    (Number.trimmed_padded 2 d.day)
  simpa [Date.text] using around

theorem Date.not_mem_text (hc : Foreign c) (d : Date) : c ∉ d.text := by
  have hsign := hc.sign
  simp only [List.mem_cons, not_or] at hsign
  obtain ⟨hplus, hminus, -⟩ := hsign
  have hyear : c ∉ yearText d.year := by
    unfold yearText
    split
    · exact Number.not_mem_padded hc.digit 4 _
    · split
      · exact List.not_mem_cons_of_ne_of_not_mem hminus (Number.not_mem_padded hc.digit 4 _)
      · exact List.not_mem_cons_of_ne_of_not_mem hplus (Number.not_mem_padded hc.digit 4 _)
  simp [Date.text, hyear, hminus, Number.not_mem_padded hc.digit]

/-! ## Times -/

namespace TimeOfDay

/-- The time that a clock shows. A leap second that does not end a minute is shown as the second after it. -/
def shown (t : TimeOfDay) : TimeOfDay :=
  if h : t.nanos < 1000000000 ∨ t.second = 59 then t
  else
    { t with
      second := t.second + 1
      nanos := t.nanos - 1000000000
      onClock := by
        obtain ⟨hhour, hminute, hsecond, hnanos⟩ := t.onClock
        exact ⟨hhour, hminute, by omega, by omega⟩ }

theorem shown_eq_self_iff {t : TimeOfDay} : t.shown = t ↔ t.nanos < 1000000000 ∨ t.second = 59 := by
  constructor
  · intro same
    rw [shown] at same
    split at same
    · next h => exact h
    · exact absurd (congrArg second same) (Nat.succ_ne_self t.second)
  · intro h
    rw [shown, dif_pos h]

theorem shown_of_leap {t t' : TimeOfDay} (leap : 1000000000 ≤ t.nanos) (within : t.second ≠ 59)
    (hour : t'.hour = t.hour) (minute : t'.minute = t.minute) (second : t'.second = t.second + 1)
    (nanos : t'.nanos = t.nanos - 1000000000) : t.shown = t' := by
  obtain ⟨hour', minute', second', nanos', onClock'⟩ := t'
  rw [shown, dif_neg (by omega), mk.injEq]
  exact ⟨hour.symm, minute.symm, second.symm, nanos.symm⟩

theorem fractionText_cases (nanos : Nat) :
    fractionText nanos = [] ∨ ∃ width n, fractionText nanos = '.' :: padded width n := by
  unfold fractionText
  split
  · exact .inl rfl
  · right
    split
    · exact ⟨_, _, rfl⟩
    · split
      all_goals exact ⟨_, _, rfl⟩

theorem trimmed_text (t : TimeOfDay) : Trimmed t.text := by
  unfold text
  obtain h | ⟨width, n, h⟩ := fractionText_cases (t.nanos % 1000000000)
  · have around := (Number.trimmed_padded 2 t.hour).around (':' :: padded 2 t.minute ++ [':'])
      (Number.trimmed_padded 2 (t.second + t.nanos / 1000000000))
    simpa [h] using around
  · have around := (Number.trimmed_padded 2 t.hour).around (':' :: padded 2 t.minute ++
      ':' :: padded 2 (t.second + t.nanos / 1000000000) ++ ['.']) (Number.trimmed_padded width n)
    simpa [h] using around

theorem not_mem_text (hc : Foreign c) (t : TimeOfDay) : c ∉ t.text := by
  have hsign := hc.sign
  simp only [List.mem_cons, not_or] at hsign
  obtain ⟨-, -, -, hcolon, hpoint, -⟩ := hsign
  obtain h | ⟨width, n, h⟩ := fractionText_cases (t.nanos % 1000000000)
  all_goals simp [text, h, hcolon, hpoint, Number.not_mem_padded hc.digit]

end TimeOfDay

/-! ## Timestamps -/

namespace Timestamp

theorem trimmed_text (t : Timestamp) (separator : Char) : Trimmed (t.text separator) := by
  have around := t.date.trimmed_text.around [separator] t.time.trimmed_text
  simpa [text] using around

theorem not_mem_text (hc : Foreign c) (t : Timestamp) : c ∉ t.text ' ' := by
  have hblank : c ≠ ' ' := by
    rintro rfl
    exact hc.sign (by decide)
  simp [text, hblank, t.date.not_mem_text hc, t.time.not_mem_text hc]

end Timestamp

end SqlMapper
