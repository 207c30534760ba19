import SqlMapper.Column.FieldType
import SqlMapper.Proofs.Calendar.Clock
import SqlMapper.Proofs.Column.Conversion
import SqlMapper.Proofs.Text.Split

/-!
# Spans of time read from columns

The server's time columns hold spans of time of up to 838 hours in either direction. A span is read as a
time of day if it is one, and as its text otherwise. Two readers decide on this, one after the other: that
of the calendar and a check of the text. Together they leave no span of the column out, and take none beyond
it.

* `isSpan_text`: which spans the check lets through.
* `trimmed_text`: nothing is cut off the text of a span.
* `coerce_span`: what spans are read as.
-/

namespace SqlMapper

open Number (padded pointed fractionValue)

namespace SpanText

variable {t : SpanText}

/-! ## The check of a span -/

theorem isWithin_padded (high n : ℕ) : isWithin high (padded 2 n) = decide (n ≤ high) := by
  have hdigits : Number.isDigits (padded 2 n) = true :=
    Number.isDigits_iff.mpr ⟨Number.padded_ne_nil 2 n, fun _ hc => Number.isDigit_of_mem_padded hc⟩
  rw [isWithin, hdigits, Number.ofDigits_padded, Bool.true_and]

theorem point_not_mem_clock (t : SpanText) : '.' ∉ t.clock := by
  have hpadded : ∀ n, '.' ∉ padded 2 n := Number.not_mem_padded rfl 2
  simp [clock, hpadded]

theorem splitAtFirst_body (t : SpanText) : Text.splitAtFirst '.' t.body = (t.clock, t.fraction?) := by
  unfold body
  cases t.fraction? with
  | none => rw [pointed, List.append_nil, Text.splitAtFirst_of_not_mem t.point_not_mem_clock]
  | some ds => exact Text.splitAtFirst_append t.point_not_mem_clock ds

theorem splitOn_clock (t : SpanText) :
    Text.splitOn ':' t.clock = [padded 2 t.hours, padded 2 t.minutes, padded 2 t.seconds] := by
  have hpadded : ∀ n, ':' ∉ padded 2 n := Number.not_mem_padded rfl 2
  rw [clock, Text.splitOn_append (hpadded _), Text.splitOn_append (hpadded _),
    Text.splitOn_of_not_mem (hpadded _)]

/-- The parts that the check looks at. A sign in front is skipped. -/
theorem isSpan_eq {text body clock hours minutes seconds : List Char} {fraction? : Option (List Char)}
    (hbody : text = '-' :: body ∨ text = body ∧ '-' ∉ body)
    (hpoint : Text.splitAtFirst '.' body = (clock, fraction?))
    (hcolons : Text.splitOn ':' clock = [hours, minutes, seconds]) :
    isSpan text = ((fraction?.getD []).all Char.isDigit &&
      (isWithin 838 hours && minutes.length == 2 && isWithin 59 minutes && seconds.length == 2 &&
        isWithin 59 seconds)) := by
  unfold isSpan
  rcases hbody with rfl | ⟨rfl, hminus⟩
  · simp only [hpoint, hcolons]
  · dsimp only
    split
    · next rest => exact absurd List.mem_cons_self hminus
    · rw [hpoint]
      dsimp only
      rw [hcolons]

theorem minus_not_mem_body (t : SpanText) : '-' ∉ t.body := by
  have hpadded : ∀ n, '-' ∉ padded 2 n := Number.not_mem_padded rfl 2
  have hfraction : '-' ∉ pointed t.fraction? := by
    rcases t.fraction_cases with hnone | ⟨ds, hsome, -, hds⟩
    · rw [hnone]
      exact List.not_mem_nil
    · rw [hsome]
      intro hmem
      rcases List.mem_cons.mp hmem with h | h
      · cases h
      · cases hds '-' h
  simp [body, clock, hpadded, hfraction]

/-- The check lets through what the server can hold, in either direction. -/
theorem isSpan_text (t : SpanText) :
    isSpan t.text = decide (t.hours ≤ 838 ∧ t.minutes ≤ 59 ∧ t.seconds ≤ 59) := by
  obtain ⟨hminutes, hseconds⟩ := t.two_digits
  have hbody : t.text = '-' :: t.body ∨ t.text = t.body ∧ '-' ∉ t.body := by
    unfold text
    split
    · exact .inl rfl
    · exact .inr ⟨rfl, t.minus_not_mem_body⟩
  have hfraction : (t.fraction?.getD []).all Char.isDigit = true :=
    List.all_eq_true.mpr t.fraction_digits
  have hlength : ∀ n < 100, (padded 2 n).length = 2 := fun n h => Number.length_padded (by decide) h
  rw [isSpan_eq hbody t.splitAtFirst_body t.splitOn_clock, hfraction, hlength _ hminutes,
    hlength _ hseconds, isWithin_padded, isWithin_padded, isWithin_padded]
  simp [Bool.and_assoc]

/-! ## Columns -/

/-- Nothing is cut off the text of a span. -/
theorem trimmed_text (t : SpanText) : Text.Trimmed t.text := by
  have hclock : Text.Trimmed t.clock := by
    have around := (Number.trimmed_padded 2 t.hours).around (':' :: padded 2 t.minutes ++ [':'])
      (Number.trimmed_padded 2 t.seconds)
    simpa [clock] using around
  have hbody : Text.Trimmed t.body := by
    unfold body
    rcases t.fraction_cases with hnone | ⟨ds, hsome, hne, hds⟩
    · rwa [hnone, pointed, List.append_nil]
    · have around := hclock.around ['.'] (Text.trimmed_digits hne hds)
      rw [hsome]
      simpa [pointed] using around
  unfold text
  split
  · exact hbody.cons (by decide)
  · exact hbody

/-- What a time column yields for the text of a span. -/
def delivered (t : SpanText) : Except CoercionError Value :=
  coerce (some (Bytes.encode (String.ofList t.text))) FieldType.time.code

theorem delivered_eq (t : SpanText) : t.delivered = readTime t.text := by
  have hcode : conversion? FieldType.time.code = some .time := rfl
  exact coerce_of_trimmed hcode t.trimmed_text

/-- What is no time of day is left to the check. -/
theorem delivered_of_refused
    (h : t.negative = true ∨ 23 < t.hours ∨ 59 < t.minutes ∨ 60 < t.seconds) :
    t.delivered = if t.hours ≤ 838 ∧ t.minutes ≤ 59 ∧ t.seconds ≤ 59
      then .ok (.text (String.ofList t.text)) else .error (.time t.text) := by
  obtain ⟨e, herror⟩ := Calendar.exists_readTime_eq_error h
  rw [delivered_eq, readTime, herror, t.isSpan_text]
  simp only [decide_eq_true_eq]

end SpanText

open SpanText in
/-- **Spans of time in time columns.** For every span as it is written, with a fraction of any length:
    without a sign and with hours below 24 it is read as the time of day, with the fraction cut off after
    the nanoseconds; with a sign or with hours from 24 to 838 as its own text; and with more hours it is
    refused. Minutes from 60 on and seconds from 61 on are refused, whatever the hours and the sign. -/
theorem coerce_span (t : SpanText) :
    (t.minutes ≤ 59 ∧ t.seconds ≤ 59 →
      (t.negative = false ∧ t.hours ≤ 23 → ∃ time : TimeOfDay, t.delivered = .ok (.time time) ∧
        time.hour = t.hours ∧ time.minute = t.minutes ∧ time.second = t.seconds ∧
        time.nanos = ⌊fractionValue (t.fraction?.getD []) * 10 ^ 9⌋₊) ∧
      ((t.negative = true ∨ 24 ≤ t.hours) ∧ t.hours ≤ 838 →
        t.delivered = .ok (.text (String.ofList t.text))) ∧
      (838 < t.hours → t.delivered = .error (.time t.text))) ∧
    (60 ≤ t.minutes ∨ 61 ≤ t.seconds → t.delivered = .error (.time t.text)) := by
  constructor
  · rintro ⟨hminutes, hseconds⟩
    refine ⟨?_, ?_, ?_⟩
    · rintro ⟨hsign, hhours⟩
      obtain ⟨time, hread, hparts⟩ := Calendar.readTime_span hsign hhours hminutes hseconds
      refine ⟨time, ?_, hparts⟩
      rw [delivered_eq, readTime, hread]
    · rintro ⟨hbeyond, hhours⟩
      have hrefused : t.negative = true ∨ 23 < t.hours ∨ 59 < t.minutes ∨ 60 < t.seconds :=
        hbeyond.imp_right .inl
      rw [delivered_of_refused hrefused, if_pos ⟨hhours, hminutes, hseconds⟩]
    · intro hhours
      rw [delivered_of_refused (by omega), if_neg (by omega)]
  · intro hlate
    rw [delivered_of_refused (by omega), if_neg (by omega)]

/-- The last time of a day, with a fraction that is cut off and not rounded; the longest span backwards; the
    first one that is too long; and minutes that are too many. -/
theorem coerce_span_bounds :
    (∃ time : TimeOfDay,
      coerce (some (Bytes.encode "23:59:59.9999999999")) FieldType.time.code = .ok (.time time) ∧
        time.hour = 23 ∧ time.minute = 59 ∧ time.second = 59 ∧ time.nanos = 999999999) ∧
    coerce (some (Bytes.encode "-838:59:59.000000")) FieldType.time.code =
      .ok (.text "-838:59:59.000000") ∧
    (∃ e, coerce (some (Bytes.encode "839:00:00")) FieldType.time.code = .error e) ∧
    ∃ e, coerce (some (Bytes.encode "-12:60:00")) FieldType.time.code = .error e := by
  let last : SpanText :=
    ⟨false, 23, 59, 59, some "9999999999".toList, by decide, List.all_eq_true.mp (by decide), by decide⟩
  let longest : SpanText :=
    ⟨true, 838, 59, 59, some "000000".toList, by decide, List.all_eq_true.mp (by decide), by decide⟩
  let tooLong : SpanText := ⟨false, 839, 0, 0, none, by decide, nofun, by decide⟩
  let late : SpanText := ⟨true, 12, 60, 0, none, by decide, nofun, by decide⟩
  have hlast : String.ofList last.text = "23:59:59.9999999999" := by decide
  have hlongest : String.ofList longest.text = "-838:59:59.000000" := by decide
  have htooLong : String.ofList tooLong.text = "839:00:00" := by decide
  have hlate : String.ofList late.text = "-12:60:00" := by decide
  have hnanos : ⌊fractionValue (last.fraction?.getD []) * 10 ^ 9⌋₊ = 999999999 := by
    rw [Number.floor_fractionValue last.fraction_digits 9]
    decide
  rw [← hlast, ← hlongest, ← htooLong, ← hlate]
  refine ⟨?_, ?_, ⟨.time tooLong.text, ?_⟩, ⟨.time late.text, ?_⟩⟩
  · obtain ⟨time, hread, hhour, hminute, hsecond, hrest⟩ :=
      ((coerce_span last).1 (by decide)).1 (by decide)
    exact ⟨time, hread, hhour, hminute, hsecond, hrest.trans hnanos⟩
  · exact ((coerce_span longest).1 (by decide)).2.1 (by decide)
  · exact ((coerce_span tooLong).1 (by decide)).2.2 (by decide)
  · exact (coerce_span late).2 (by decide)

end SqlMapper
