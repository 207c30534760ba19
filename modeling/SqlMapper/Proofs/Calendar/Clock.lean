import SqlMapper.Proofs.Calendar.Reading
import SqlMapper.Proofs.Number.Numeral

/-!
# Spans of time as they are written

A span of time is written as hours in at least two digits, minutes and seconds in two digits, and
optionally a point with any number of further digits; a minus sign may stand before it. Some of these
texts are times of day: those without a sign whose hours are below 24.

* `SpanText`: spans of time as they are written.
* `readTime_span`: times of day are read, with the fraction cut off after the nanoseconds.
* `exists_readTime_eq_error`: all other spans are refused.
-/

namespace SqlMapper

open Number (padded pointed fractionValue)

/-- A span of time as it is written. -/
structure SpanText where
  negative : Bool
  hours : ℕ
  minutes : ℕ
  seconds : ℕ
  fraction? : Option (List Char)
  two_digits : minutes < 100 ∧ seconds < 100
  fraction_digits : ∀ c ∈ fraction?.getD [], c.isDigit = true
  fraction_ne_nil : fraction? ≠ some []

namespace SpanText

/-- Hours, minutes and seconds. -/
def clock (t : SpanText) : List Char :=
  padded 2 t.hours ++ ':' :: (padded 2 t.minutes ++ ':' :: padded 2 t.seconds)

/-- The span without its sign. -/
def body (t : SpanText) : List Char := t.clock ++ pointed t.fraction?

def text (t : SpanText) : List Char := if t.negative then '-' :: t.body else t.body

/-- The nanoseconds of the fraction. Digits after the ninth are cut off. -/
def nanos (t : SpanText) : ℕ := ⌊fractionValue (t.fraction?.getD []) * 10 ^ 9⌋₊

theorem nanos_lt (t : SpanText) : t.nanos < 1000000000 := by
  have hlt := Number.fractionValue_lt_one t.fraction_digits
  have hnonneg := Number.fractionValue_nonneg (t.fraction?.getD [])
  rw [nanos, Nat.floor_lt (by positivity)]
  norm_num
  linarith

theorem body_eq (t : SpanText) : t.body =
    padded 2 t.hours ++ ':' :: (padded 2 t.minutes ++ ':' :: (padded 2 t.seconds ++
      pointed t.fraction?)) := by
  simp [body, clock]

/-- There is no fraction, or it has a digit. -/
theorem fraction_cases (t : SpanText) : t.fraction? = none ∨
    ∃ ds, t.fraction? = some ds ∧ ds ≠ [] ∧ ∀ c ∈ ds, c.isDigit = true := by
  have hdigits := t.fraction_digits
  have hne := t.fraction_ne_nil
  cases hfraction : t.fraction? with
  | none => exact .inl rfl
  | some ds =>
    rw [hfraction] at hdigits hne
    exact .inr ⟨ds, rfl, fun heq => hne (congrArg some heq), hdigits⟩

end SpanText

namespace Calendar.Reader

variable {α β : Type} {s rest : List Char} {t : SpanText}

/-! ## Readers that refuse -/

/-- The reader ends with an error. -/
def Refuses (r : Reader α) (s : List Char) : Prop := ∃ e, r s = .error e

theorem Refuses.bind {r : Reader α} (h : Refuses r s) (f : α → Reader β) : Refuses (r >>= f) s := by
  obtain ⟨e, he⟩ := h
  refine ⟨e, ?_⟩
  show (r s >>= fun p => f p.1 p.2) = .error e
  rw [he]
  rfl

theorem refuses_bind_of_ok {r : Reader α} {f : α → Reader β} {a : α} (h : r s = .ok (a, rest))
    (hf : Refuses (f a) rest) : Refuses (r >>= f) s := by
  obtain ⟨e, he⟩ := hf
  exact ⟨e, by rw [bind_ok h, he]⟩

theorem refuses_literal {c d : Char} (h : d ≠ c) (rest : List Char) : Refuses (literal c) (d :: rest) :=
  ⟨.unexpected, if_neg h⟩

theorem refuses_part_minus (low high : ℕ) (rest : List Char) : Refuses (part low high) ('-' :: rest) := by
  refine ⟨.unexpected, ?_⟩
  unfold part
  rw [bind_ok (blanks_of_first (by decide))]
  rfl

theorem refuses_part_padded {low high n : ℕ} (hhigh : high < n) (h : n < 100) (rest : List Char) :
    Refuses (part low high) (padded 2 n ++ rest) := by
  refine ⟨.outOfRange, ?_⟩
  rw [part_eq (Number.length_padded (by decide) h) fun _ hc => Number.isDigit_of_mem_padded hc,
    Number.ofDigits_padded, if_neg (by omega)]

theorem two_lt_length_padded {n : ℕ} (h : 100 ≤ n) : 2 < (padded 2 n).length := by
  have hlong : 2 < (Number.decimal n).length := by
    rw [← Nat.not_le, Number.decimal, Nat.length_toDigits_le_iff (by decide) (by decide)]
    omega
  exact hlong.trans_le (List.suffix_append _ _).length_le

/-- Hours of three digits and more: two of them are read, and no colon follows. -/
theorem refuses_long_hours {n : ℕ} (h : 100 ≤ n) (rest : List Char) (f : ℕ → Unit → Reader β) :
    Refuses (part 0 23 >>= fun hour => literal ':' >>= f hour) (padded 2 n ++ rest) := by
  have hlong := two_lt_length_padded h
  have hdigits : ∀ c ∈ padded 2 n, c.isDigit = true := fun _ hc => Number.isDigit_of_mem_padded hc
  have hlength : ((padded 2 n).take 2).length = 2 := List.length_take_of_le hlong.le
  have hmore : (padded 2 n).drop 2 ≠ [] := by
    rw [ne_eq, List.drop_eq_nil_iff]
    omega
  obtain ⟨c, ds, hdrop⟩ := List.exists_cons_of_ne_nil hmore
  have hcolon : c ≠ ':' := by
    rintro rfl
    cases hdigits ':' (List.mem_of_mem_drop (hdrop ▸ List.mem_cons_self))
  have htext : padded 2 n ++ rest = (padded 2 n).take 2 ++ (c :: ds ++ rest) := by
    rw [← hdrop, ← List.append_assoc, List.take_append_drop]
  have hread := part_eq hlength (fun d hd => hdigits d (List.mem_of_mem_take hd)) 0 23
    (c :: ds ++ rest)
  rw [htext]
  split at hread
  · exact refuses_bind_of_ok hread ((refuses_literal hcolon _).bind _)
  · -- The two digits alone are too many hours.
    exact Refuses.bind ⟨_, hread⟩ _

/-! ## Spans read by the clock -/

/-- The fraction is cut off after the nanoseconds. -/
theorem fraction_pointed (t : SpanText) : fraction (pointed t.fraction?) = .ok (t.nanos, []) := by
  unfold SpanText.nanos
  rcases t.fraction_cases with hnone | ⟨ds, hsome, hne, hds⟩
  · have hzero : ⌊fractionValue [] * 10 ^ 9⌋₊ = 0 := by simp [fractionValue, Number.ofDigits]
    rw [hnone, Option.getD_none, hzero]
    rfl
  · rw [hsome, Option.getD_some, Number.floor_fractionValue hds 9]
    exact fraction_digits hne hds

theorem clock_body (hhours : t.hours ≤ 23) (hminutes : t.minutes ≤ 59) (hseconds : t.seconds ≤ 59) :
    ∃ time : TimeOfDay, clock t.body = .ok (time, []) ∧ time.hour = t.hours ∧
      time.minute = t.minutes ∧ time.second = t.seconds ∧ time.nanos = t.nanos := by
  have hnanos := t.nanos_lt
  have onClock : IsClockTime t.hours t.minutes t.seconds t.nanos :=
    ⟨by omega, by omega, by omega, by omega⟩
  have hleap : t.seconds ≠ 60 := by omega
  refine ⟨⟨t.hours, t.minutes, t.seconds, t.nanos, onClock⟩, ?_, rfl, rfl, rfl, rfl⟩
  rw [t.body_eq]
  apply clock_parts hhours hminutes (by omega) (fraction_pointed t)
  rw [if_neg hleap]
  exact TimeOfDay.ofParts?_of_onClock onClock (.inl hnanos)

/-- The part that is too great is refused where it is read. -/
theorem refuses_clock_body (h : 23 < t.hours ∨ 59 < t.minutes ∨ 60 < t.seconds) :
    Refuses clock t.body := by
  obtain ⟨hminutes, hseconds⟩ := t.two_digits
  unfold clock
  rw [t.body_eq]
  by_cases hlong : 100 ≤ t.hours
  · exact refuses_long_hours hlong _ _
  by_cases hhours : 23 < t.hours
  · exact (refuses_part_padded hhours (by omega) _).bind _
  apply refuses_bind_of_ok (part_padded (Nat.zero_le _) (by omega) (by omega) _)
  apply refuses_bind_of_ok (literal_cons _ _)
  by_cases hlate : 59 < t.minutes
  · exact (refuses_part_padded hlate hminutes _).bind _
  apply refuses_bind_of_ok (part_padded (Nat.zero_le _) (by omega) (by omega) _)
  apply refuses_bind_of_ok (literal_cons _ _)
  exact (refuses_part_padded (by omega) hseconds _).bind _

theorem refuses_clock_minus (rest : List Char) : Refuses clock ('-' :: rest) :=
  (refuses_part_minus 0 23 rest).bind _

end Calendar.Reader

/-! ## Whole texts -/

namespace Calendar

variable {t : SpanText}

/-- A span without a sign is a time of day if its hours are below 24. -/
theorem readTime_span (hsign : t.negative = false) (hhours : t.hours ≤ 23) (hminutes : t.minutes ≤ 59)
    (hseconds : t.seconds ≤ 59) :
    ∃ time : TimeOfDay, readTime t.text = .ok time ∧ time.hour = t.hours ∧ time.minute = t.minutes ∧
      time.second = t.seconds ∧ time.nanos = t.nanos := by
  have htext : t.text = t.body := if_neg (by simp [hsign])
  obtain ⟨time, hread, hparts⟩ := Reader.clock_body hhours hminutes hseconds
  refine ⟨time, ?_, hparts⟩
  rw [htext]
  exact Reader.whole_ok hread

/-- A span with a sign is no time of day, nor is one with a part that is too great. -/
theorem exists_readTime_eq_error
    (h : t.negative = true ∨ 23 < t.hours ∨ 59 < t.minutes ∨ 60 < t.seconds) :
    ∃ e, readTime t.text = .error e := by
  have hrefused : Reader.Refuses Reader.clock t.text := by
    unfold SpanText.text
    split
    · exact Reader.refuses_clock_minus t.body
    · next hsign =>
      apply Reader.refuses_clock_body
      rcases h with h | h
      · exact absurd h hsign
      · exact h
  obtain ⟨e, he⟩ := hrefused
  exact ⟨e, by rw [readTime, Reader.whole, he]⟩

end Calendar

end SqlMapper
