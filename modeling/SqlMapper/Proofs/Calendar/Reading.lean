import Mathlib.Data.List.TakeWhile
import SqlMapper.Calendar.Reader
import SqlMapper.Proofs.Calendar.Text

/-!
# Dates and times read back

Dates, times of day and timestamps are read from their texts as these show them: dates of all years that
the library covers, with and without a sign, times with any fraction, and leap seconds at the end of a minute.
Any other leap second is read as the second after it, whose text it has. A text that is read as a date is no
timestamp.

* `Reader.year_yearText`, `Reader.part_padded`, `Reader.fraction_fractionText`: the numbers, whatever
  follows.
* `Reader.clock_parts`: a time from its parts.
* `readDate_text`, `readTime_text`, `readDateTime_text`: whole texts.
* `readDateTime_of_readDate`: a date without a time.
-/

namespace SqlMapper.Calendar

open Number (padded)

/-! ## Parts of a calendar day -/

theorem resolve_ymd (d : Date) : resolve (d.year, d.month, d.day) = .ok d := by
  rw [resolve, Date.ofYmd?_self]

theorem daysInMonth_le (year : Int) (month : Nat) : daysInMonth year month ≤ 31 := by
  unfold daysInMonth
  split
  case h_12 => split <;> decide
  all_goals decide

/-- Only the months have days. -/
theorem month_of_daysInMonth_pos {year : Int} {month : Nat} (h : 1 ≤ daysInMonth year month) :
    1 ≤ month ∧ month ≤ 12 := by
  unfold daysInMonth at h
  split at h
  all_goals omega

namespace Reader

variable {α β : Type} {s rest : List Char} {limit : Option Nat}

/-! ## Steps of a reader -/

/-- One reader after the other. -/
theorem bind_ok {r : Reader α} {f : α → Reader β} {a : α} (h : r s = .ok (a, rest)) :
    (r >>= f) s = f a rest := by
  show (r s >>= fun p => f p.1 p.2) = f a rest
  rw [h]
  rfl

theorem get_eq : (get : Reader (List Char)) s = .ok (s, s) := rfl

theorem set_eq (s' : List Char) : (set s' : Reader Unit) s = .ok ((), s') := rfl

theorem literal_cons (c : Char) (rest : List Char) : literal c (c :: rest) = .ok ((), rest) :=
  if_pos rfl

theorem blanks_of_first {c : Char} (hc : Text.isBlank c = false) :
    blanks (c :: s) = .ok ((), c :: s) := by
  rw [blanks, Text.trimStart_cons hc]

theorem whole_ok {r : Reader α} {a : α} (h : r s = .ok (a, [])) : whole r s = .ok a := by
  rw [whole, h]

theorem eq_of_whole {r : Reader α} {a : α} (h : whole r s = .ok a) : r s = .ok (a, []) := by
  unfold whole at h
  split at h
  · next heq =>
    cases h
    exact heq
  · cases h
  · cases h

/-! ## Digits -/

/-- What follows does not begin with a digit. -/
def Ends (rest : List Char) : Prop := ∀ c ∈ rest.head?, c.isDigit = false

variable {ds ds' : List Char}

theorem ends_nil : Ends [] := by
  intro c hc
  cases hc

theorem ends_cons {c : Char} (hc : c.isDigit = false) : Ends (c :: rest) := by
  intro d hd
  cases hd
  exact hc

theorem Ends.take (ends : Ends rest) (n : Nat) : Ends (rest.take n) := by
  cases n with
  | zero => exact ends_nil
  | succ n =>
    cases rest with
    | nil => exact ends_nil
    | cons c rest => exact ends_cons (ends c rfl)

theorem takeWhile_isDigit_append (hds : ∀ c ∈ ds, c.isDigit = true) (ends : Ends rest) :
    (ds ++ rest).takeWhile Char.isDigit = ds := by
  rw [List.takeWhile_append_of_pos hds]
  cases rest with
  | nil => exact List.append_nil ds
  | cons c rest =>
    rw [List.takeWhile_cons_of_neg (by simp [ends c rfl])]
    exact List.append_nil ds

theorem digits_of_leadingDigits (hne : ds ≠ []) (h : leadingDigits limit (ds ++ rest) = ds) :
    digits limit (ds ++ rest) = .ok (ds, rest) := by
  unfold digits
  dsimp only
  rw [h]
  obtain ⟨c, cs, rfl⟩ := List.exists_cons_of_ne_nil hne
  simp

/-- As many digits as the limit allows, whatever follows. -/
theorem digits_full (hne : ds ≠ []) (hds : ∀ c ∈ ds, c.isDigit = true) (rest : List Char) :
    digits (some ds.length) (ds ++ rest) = .ok (ds, rest) := by
  apply digits_of_leadingDigits hne
  show ((ds ++ rest).take ds.length).takeWhile Char.isDigit = ds
  rw [List.take_left, ← List.append_nil ds]
  exact (List.append_nil ds).symm ▸ takeWhile_isDigit_append hds ends_nil

/-- No more digits than the limit allows, and something else behind them. -/
theorem digits_ended (hne : ds ≠ []) (hds : ∀ c ∈ ds, c.isDigit = true) (ends : Ends rest)
    (hlimit : ∀ n ∈ limit, ds.length ≤ n) : digits limit (ds ++ rest) = .ok (ds, rest) := by
  apply digits_of_leadingDigits hne
  cases limit with
  | none => exact takeWhile_isDigit_append hds ends
  | some n =>
    show ((ds ++ rest).take n).takeWhile Char.isDigit = ds
    rw [List.take_append, List.take_of_length_le (hlimit n rfl)]
    exact takeWhile_isDigit_append hds (ends.take _)

/-! ## Numbers of a date and a time -/

/-- Two digits, whatever follows. -/
theorem part_eq (hlength : ds.length = 2) (hds : ∀ c ∈ ds, c.isDigit = true) (low high : Nat)
    (rest : List Char) : part low high (ds ++ rest) =
      if low ≤ Number.ofDigits ds ∧ Number.ofDigits ds ≤ high then .ok (Number.ofDigits ds, rest)
      else .error .outOfRange := by
  have hne : ds ≠ [] := List.ne_nil_of_length_eq_add_one hlength
  have hread : digits (some 2) (ds ++ rest) = .ok (ds, rest) := hlength ▸ digits_full hne hds rest
  have hblanks : blanks (ds ++ rest) = .ok ((), ds ++ rest) := by
    obtain ⟨c, cs, rfl⟩ := List.exists_cons_of_ne_nil hne
    exact blanks_of_first (Text.isBlank_of_isDigit (hds c List.mem_cons_self))
  unfold part
  rw [bind_ok hblanks, bind_ok hread]
  split
  all_goals rfl

/-- A number of two digits within its bounds. -/
theorem part_padded {low high n : Nat} (hlow : low ≤ n) (hhigh : n ≤ high) (h : n < 100)
    (rest : List Char) : part low high (padded 2 n ++ rest) = .ok (n, rest) := by
  rw [part_eq (Number.length_padded (by decide) h) fun _ hc => Number.isDigit_of_mem_padded hc,
    Number.ofDigits_padded, if_pos ⟨hlow, hhigh⟩]

/-- A year that fits 32 bits is kept. -/
theorem year_fits {y : Int} (h : -2147483648 ≤ y ∧ y ≤ 2147483647) :
    (if -2147483648 ≤ y ∧ y ≤ 2147483647 then return y else throw .outOfRange : Reader Int) rest =
      .ok (y, rest) := by
  rw [if_pos h]
  rfl

/-- A year with a sign has any number of digits. -/
theorem digits_year (n : Nat) (ends : Ends rest) :
    digits none (padded 4 n ++ rest) = .ok (padded 4 n, rest) :=
  digits_ended (Number.padded_ne_nil 4 n) (fun _ hc => Number.isDigit_of_mem_padded hc) ends nofun

theorem year_minus {n : Nat} (h : n ≤ 2147483647) (ends : Ends rest) :
    year ('-' :: padded 4 n ++ rest) = .ok (-(n : Int), rest) := by
  unfold year
  rw [List.cons_append, bind_ok (blanks_of_first (by decide)), bind_ok get_eq]
  show ((set (padded 4 n ++ rest) : Reader Unit) >>= _) _ = _
  rw [bind_ok (set_eq _), bind_ok (digits_year n ends), Number.ofDigits_padded, pure_bind]
  exact year_fits (by omega)

theorem year_plus {n : Nat} (h : n ≤ 2147483647) (ends : Ends rest) :
    year ('+' :: padded 4 n ++ rest) = .ok ((n : Int), rest) := by
  unfold year
  rw [List.cons_append, bind_ok (blanks_of_first (by decide)), bind_ok get_eq]
  show ((set (padded 4 n ++ rest) : Reader Unit) >>= _) _ = _
  rw [bind_ok (set_eq _), bind_ok (digits_year n ends), Number.ofDigits_padded, pure_bind]
  exact year_fits (by omega)

/-- A text that begins with a digit is read as a year without a sign. -/
theorem year_of_digits {c : Char} (hc : c.isDigit = true) (hs : s = c :: ds)
    (h : digits (some 4) s = .ok (ds', rest)) (hds : Number.ofDigits ds' ≤ 2147483647) :
    year s = .ok ((Number.ofDigits ds' : Int), rest) := by
  have hblanks : blanks s = .ok ((), s) := hs ▸ blanks_of_first (Text.isBlank_of_isDigit hc)
  unfold year
  rw [bind_ok hblanks, bind_ok get_eq]
  split
  · cases hs
    cases hc
  · cases hs
    cases hc
  · rw [bind_ok h, pure_bind]
    exact year_fits (by omega)

/-- A year without a sign has four digits. -/
theorem year_unsigned {n : Nat} (h : n ≤ 9999) :
    year (padded 4 n ++ rest) = .ok ((n : Int), rest) := by
  have hdigits : ∀ c ∈ padded 4 n, c.isDigit = true := fun c hc => Number.isDigit_of_mem_padded hc
  have hread : digits (some 4) (padded 4 n ++ rest) = .ok (padded 4 n, rest) := by
    have full := digits_full (Number.padded_ne_nil 4 n) hdigits rest
    rwa [Number.length_padded (by decide) (Nat.lt_succ_of_le h)] at full
  have hvalue : Number.ofDigits (padded 4 n) ≤ 2147483647 := by
    rw [Number.ofDigits_padded]
    omega
  obtain ⟨c, cs, hcons⟩ := List.exists_cons_of_ne_nil (Number.padded_ne_nil 4 n)
  have hc : c.isDigit = true := hdigits c (hcons ▸ List.mem_cons_self)
  have hfirst : padded 4 n ++ rest = c :: (cs ++ rest) := by rw [hcons, List.cons_append]
  rw [year_of_digits hc hfirst hread hvalue, Number.ofDigits_padded]

/-- Years of the calendar are read back, whatever follows, unless it goes on with digits. -/
theorem year_yearText {y : Int} (hlow : -2147483647 ≤ y) (hhigh : y ≤ 2147483647) (ends : Ends rest) :
    year (Date.yearText y ++ rest) = .ok (y, rest) := by
  unfold Date.yearText
  by_cases hplain : 0 ≤ y ∧ y ≤ 9999
  · have hy : ((y.toNat : Nat) : Int) = y := Int.toNat_of_nonneg hplain.1
    rw [if_pos hplain, year_unsigned (by omega), hy]
  · rw [if_neg hplain]
    by_cases hneg : y < 0
    · have hy : -((y.natAbs : Nat) : Int) = y := by omega
      rw [if_pos hneg, year_minus (by omega) ends, hy]
    · have hy : ((y.natAbs : Nat) : Int) = y := by omega
      rw [if_neg hneg, year_plus (by omega) ends, hy]

/-- The first nine digits of a fraction are read at the end of a text, and the others are skipped. -/
theorem fraction_digits (hne : ds ≠ []) (hds : ∀ c ∈ ds, c.isDigit = true) :
    fraction ('.' :: ds) =
      .ok (Number.ofDigits (ds.take 9) * Nat.pow 10 (9 - (ds.take 9).length), []) := by
  have hskipped : (ds.drop (ds.take 9).length).dropWhile Char.isDigit = [] :=
    List.dropWhile_eq_nil_iff.mpr fun c hc => hds c (List.mem_of_mem_drop hc)
  have htaken : (ds.take 9).takeWhile Char.isDigit = ds.take 9 :=
    List.takeWhile_eq_self_iff.mpr fun c hc => hds c (List.mem_of_mem_take hc)
  have hread : digits (some 9) ds = .ok (ds.take 9, ds.drop (ds.take 9).length) := by
    obtain ⟨c, cs, rfl⟩ := List.exists_cons_of_ne_nil hne
    unfold digits
    simp only [leadingDigits, htaken]
    rfl
  unfold fraction
  rw [bind_ok get_eq]
  show ((set ds : Reader Unit) >>= _) _ = _
  rw [bind_ok (set_eq _), bind_ok hread]
  show Except.ok (_, (ds.drop (ds.take 9).length).dropWhile Char.isDigit) = _
  rw [hskipped]

/-- Fractions of a second are read back at the end of a text. -/
theorem fraction_point {width n : Nat} (hpos : 0 < width) (hwidth : width ≤ 9)
    (h : n < Nat.pow 10 width) :
    fraction ('.' :: padded width n) = .ok (n * Nat.pow 10 (9 - width), []) := by
  have hlength : (padded width n).length = width := Number.length_padded hpos h
  have htake : (padded width n).take 9 = padded width n := List.take_of_length_le (by omega)
  rw [fraction_digits (Number.padded_ne_nil width n) fun _ hc => Number.isDigit_of_mem_padded hc,
    htake, Number.ofDigits_padded, hlength]

theorem fraction_fractionText {nanos : Nat} (h : nanos < 1000000000) :
    fraction (TimeOfDay.fractionText nanos) = .ok (nanos, []) := by
  unfold TimeOfDay.fractionText
  by_cases hzero : nanos = 0
  · subst hzero
    rfl
  rw [if_neg hzero]
  by_cases hmillis : nanos % 1000000 = 0
  · have hvalue : nanos / 1000000 * Nat.pow 10 (9 - 3) = nanos := by
      show nanos / 1000000 * 1000000 = nanos
      omega
    have hlt : nanos / 1000000 < Nat.pow 10 3 := by
      show nanos / 1000000 < 1000
      omega
    rw [if_pos hmillis, fraction_point (by decide) (by decide) hlt, hvalue]
  rw [if_neg hmillis]
  by_cases hmicros : nanos % 1000 = 0
  · have hvalue : nanos / 1000 * Nat.pow 10 (9 - 6) = nanos := by
      show nanos / 1000 * 1000 = nanos
      omega
    have hlt : nanos / 1000 < Nat.pow 10 6 := by
      show nanos / 1000 < 1000000
      omega
    rw [if_pos hmicros, fraction_point (by decide) (by decide) hlt, hvalue]
  · have hvalue : nanos * Nat.pow 10 (9 - 9) = nanos := Nat.mul_one nanos
    rw [if_neg hmicros, fraction_point (by decide) (by decide) h, hvalue]

/-! ## Dates and times -/

/-- A date is read back, whatever follows. -/
theorem ymd_text (d : Date) (rest : List Char) :
    ymd (d.text ++ rest) = .ok ((d.year, d.month, d.day), rest) := by
  obtain ⟨⟨hlow, hhigh⟩, hday, hlength⟩ := d.onCalendar
  have hdays := daysInMonth_le d.year d.month
  have hmonth := month_of_daysInMonth_pos (Nat.le_trans hday hlength)
  have hparts : d.text ++ rest = Date.yearText d.year ++ '-' :: (padded 2 d.month ++
      '-' :: (padded 2 d.day ++ rest)) := by simp [Date.text]
  have ends : Ends ('-' :: (padded 2 d.month ++ '-' :: (padded 2 d.day ++ rest))) :=
    ends_cons (by decide)
  unfold ymd
  rw [hparts, bind_ok (year_yearText (by omega) (by omega) ends), bind_ok (literal_cons _ _),
    bind_ok (part_padded hmonth.1 hmonth.2 (by omega) _), bind_ok (literal_cons _ _),
    bind_ok (part_padded hday (by omega) (by omega) _)]
  rfl

/-- The second that is written is one more than the second of a leap second. -/
theorem ofParts?_written (t : TimeOfDay) :
    (if t.second + t.nanos / 1000000000 = 60 then
      TimeOfDay.ofParts? t.hour t.minute 59 (1000000000 + t.nanos % 1000000000)
    else TimeOfDay.ofParts? t.hour t.minute (t.second + t.nanos / 1000000000)
      (t.nanos % 1000000000)) = some t.shown := by
  obtain ⟨hhour, hminute, hsecond, hnanos⟩ := t.onClock
  by_cases hplain : t.nanos < 1000000000
  · have hquotient : t.nanos / 1000000000 = 0 := Nat.div_eq_of_lt hplain
    rw [hquotient, Nat.mod_eq_of_lt hplain, Nat.add_zero, if_neg (by omega), TimeOfDay.shown,
      dif_pos (.inl hplain)]
    exact TimeOfDay.ofParts?_of_onClock t.onClock (.inl hplain)
  have hquotient : t.nanos / 1000000000 = 1 := by omega
  have hrest : t.nanos % 1000000000 = t.nanos - 1000000000 := by omega
  rw [hquotient, hrest]
  by_cases hlast : t.second = 59
  · rw [if_pos (by omega), Nat.add_sub_of_le (by omega), TimeOfDay.shown, dif_pos (.inr hlast), ← hlast]
    exact TimeOfDay.ofParts?_of_onClock t.onClock (.inr hlast)
  · rw [if_neg (by omega), TimeOfDay.shown, dif_neg (by omega)]
    exact TimeOfDay.ofParts?_of_onClock _ (.inl (by omega))

/-- A time is read from its parts, and from a fraction that takes up the rest of the text. -/
theorem clock_parts {hour minute second nanos : Nat} {time : TimeOfDay} (hhour : hour ≤ 23)
    (hminute : minute ≤ 59) (hsecond : second ≤ 60) (hfraction : fraction s = .ok (nanos, []))
    (htime : (if second = 60 then TimeOfDay.ofParts? hour minute 59 (1000000000 + nanos)
      else TimeOfDay.ofParts? hour minute second nanos) = some time) :
    clock (padded 2 hour ++ ':' :: (padded 2 minute ++ ':' :: (padded 2 second ++ s))) =
      .ok (time, []) := by
  unfold clock
  rw [bind_ok (part_padded (Nat.zero_le _) hhour (by omega) _), bind_ok (literal_cons _ _),
    bind_ok (part_padded (Nat.zero_le _) hminute (by omega) _), bind_ok (literal_cons _ _),
    bind_ok (part_padded (Nat.zero_le _) hsecond (by omega) _), bind_ok hfraction, htime]
  rfl

theorem clock_text (t : TimeOfDay) : clock t.text = .ok (t.shown, []) := by
  obtain ⟨hhour, hminute, hsecond, hnanos⟩ := t.onClock
  have hwritten : t.second + t.nanos / 1000000000 ≤ 60 := by omega
  have hfraction : t.nanos % 1000000000 < 1000000000 := Nat.mod_lt _ (by decide)
  have hparts : t.text = padded 2 t.hour ++ ':' :: (padded 2 t.minute ++
      ':' :: (padded 2 (t.second + t.nanos / 1000000000) ++
        TimeOfDay.fractionText (t.nanos % 1000000000))) := by simp [TimeOfDay.text]
  rw [hparts]
  exact clock_parts (by omega) (by omega) hwritten (fraction_fractionText hfraction) (ofParts?_written t)

/-- Date and time, with a blank between. -/
theorem dateTime_text (t : Timestamp) :
    dateTime (t.text ' ') = .ok (((t.date.year, t.date.month, t.date.day), t.time.shown), []) := by
  have hparts : t.text ' ' = t.date.text ++ ' ' :: t.time.text := rfl
  have hblanks : blanks (' ' :: t.time.text) = .ok ((), t.time.text) := by
    obtain ⟨c, rest, hfirst, hc⟩ := t.time.trimmed_text.first
    rw [hfirst]
    exact blanks_of_first hc
  unfold dateTime
  rw [hparts, bind_ok (ymd_text _ _), bind_ok hblanks, bind_ok (clock_text _)]
  rfl

/-- A date that nothing follows has no time. -/
theorem dateTime_of_ymd {day : Int × Nat × Nat} (h : ymd s = .ok (day, [])) :
    dateTime s = .error .tooShort := by
  unfold dateTime
  rw [bind_ok h]
  rfl

end Reader

/-! ## Whole texts -/

variable {s : List Char} {d : Date}

theorem readDate_text (d : Date) : readDate d.text = .ok d := by
  have hread := Reader.ymd_text d []
  rw [List.append_nil] at hread
  show (Reader.whole Reader.ymd d.text).bind resolve = .ok d
  rw [Reader.whole_ok hread]
  exact resolve_ymd d

theorem readTime_text (t : TimeOfDay) : readTime t.text = .ok t.shown :=
  Reader.whole_ok (Reader.clock_text t)

theorem readDateTime_text (t : Timestamp) : readDateTime (t.text ' ') = .ok ⟨t.date, t.time.shown⟩ := by
  unfold readDateTime
  rw [Reader.whole_ok (Reader.dateTime_text t)]
  show ((resolve (t.date.year, t.date.month, t.date.day)).bind fun d =>
    Except.ok (Timestamp.mk d t.time.shown)) = _
  rw [resolve_ymd]
  rfl

/-- A text is not read both as a date and as a timestamp. -/
theorem readDateTime_of_readDate (h : readDate s = .ok d) : readDateTime s = .error .tooShort := by
  unfold readDate at h
  cases hwhole : Reader.whole Reader.ymd s with
  | error e =>
    rw [hwhole] at h
    cases h
  | ok day =>
    have hread := Reader.dateTime_of_ymd (Reader.eq_of_whole hwhole)
    unfold readDateTime
    rw [Reader.whole, hread]
    rfl

end SqlMapper.Calendar
