import SqlMapper.Column.FieldType
import SqlMapper.Proofs.Calendar.Reading
import SqlMapper.Proofs.Column.Conversion
import SqlMapper.Proofs.Text.Split
import SqlMapper.Sql.Dialect

/-!
# Date and time literals read back

The literal of a date, a time of day or a timestamp is its text in quotes, whatever the dialect. A column
of the matching type that delivers this text is read as the value that the text shows: the same one, unless
it was a leap second within a minute, which has the text of the second after it.

* `ReadsAs`, `ReadsBack`: what the literal of a value is read as.
* `readsAs_of_text`: what has to be known about the text of a value.
* `readsBack_dateTime`: all dates, times and timestamps; a date in a timestamp column is its midnight.
* `not_readsBack_leapSecond`: a leap second within a minute.
-/

namespace SqlMapper

open Sql (literalChars quoteChars)

/-- The text between the quotes of the literal of `v` is read as `w`, in a column of the type. -/
def ReadsAs (v : Value) (type : FieldType) (w : Value) : Prop :=
  ∃ s : String, '\'' ∉ s.toList ∧
    (∀ dialect ∈ [Dialect.portable, Dialect.mysql], dialect.literal v = "'" ++ s ++ "'") ∧
    coerce (some (Bytes.encode s)) type.code = .ok w

/-- The text between the quotes of the literal of a value is read as the value. -/
def ReadsBack (v : Value) (type : FieldType) : Prop := ReadsAs v type v

variable {conversion : Conversion} {raw : Option Bytes} {type : FieldType} {text : List Char}
  {v w w' : Value} {d : Date}

/-! ## Literals -/

theorem quoteChars_of_not_mem (h : '\'' ∉ text) : quoteChars text = '\'' :: text ++ ['\''] := by
  rw [quoteChars, Text.replaceChar_of_not_mem h]

/-- What has to be known about the text of a value. -/
theorem readsAs_of_text (hliteral : literalChars v = quoteChars text)
    (hsame : Sql.escapingLiteralChars v = literalChars v) (hquote : '\'' ∉ text)
    (htrimmed : Text.Trimmed text) (htype : conversion? type.code = some conversion)
    (hread : conversion.read text = .ok w) : ReadsAs v type w := by
  have hchars : literalChars v = '\'' :: text ++ ['\''] := by
    rw [hliteral, quoteChars_of_not_mem hquote]
  have hstring : String.ofList (literalChars v) = "'" ++ String.ofList text ++ "'" := by
    rw [hchars]
    apply String.toList_injective
    simp
  refine ⟨String.ofList text, by rwa [String.toList_ofList], ?_, ?_⟩
  · intro dialect hdialect
    simp only [List.mem_cons, List.not_mem_nil, or_false] at hdialect
    obtain rfl | rfl := hdialect
    · exact hstring
    · show String.ofList (Sql.escapingLiteralChars v) = _
      rw [hsame, hstring]
  · rw [coerce_of_trimmed htype htrimmed, hread]

/-- A literal has one text, and a text is read as one value. -/
theorem ReadsAs.unique (h : ReadsAs v type w) (h' : ReadsAs v type w') : w = w' := by
  obtain ⟨s, -, hliteral, hread⟩ := h
  obtain ⟨s', -, hliteral', hread'⟩ := h'
  have same : "'" ++ s ++ "'" = "'" ++ s' ++ "'" := by
    rw [← hliteral Dialect.mysql (by simp), hliteral' Dialect.mysql (by simp)]
  have texts : s = s' := by
    rw [← String.toList_inj] at same ⊢
    simpa using same
  rw [texts, hread'] at hread
  cases hread
  rfl

theorem ReadsAs.readsBack_iff (h : ReadsAs v type w) : ReadsBack v type ↔ w = v := by
  constructor
  · exact h.unique
  · rintro rfl
    exact h

theorem readsBack_date (d : Date) : ReadsBack (.date d) .date := by
  apply readsAs_of_text rfl rfl (d.not_mem_text Calendar.foreign_quote) d.trimmed_text rfl
  rw [Conversion.read, Calendar.readDate_text]
  rfl

theorem readsAs_time (t : TimeOfDay) : ReadsAs (.time t) .time (.time t.shown) := by
  apply readsAs_of_text rfl rfl (t.not_mem_text Calendar.foreign_quote) t.trimmed_text rfl
  show readTime t.text = _
  rw [readTime, Calendar.readTime_text]

theorem readsAs_timestamp (t : Timestamp) :
    ReadsAs (.timestamp t) .dateTime (.timestamp ⟨t.date, t.time.shown⟩) := by
  apply readsAs_of_text rfl rfl (t.not_mem_text Calendar.foreign_quote) (t.trimmed_text ' ') rfl
  show readTimestamp (t.text ' ') = _
  rw [readTimestamp, Calendar.readDateTime_text]

theorem readsBack_time_iff (t : TimeOfDay) :
    ReadsBack (.time t) .time ↔ t.nanos < 1000000000 ∨ t.second = 59 := by
  rw [(readsAs_time t).readsBack_iff, Value.time.injEq, TimeOfDay.shown_eq_self_iff]

theorem readsBack_timestamp_iff (t : Timestamp) :
    ReadsBack (.timestamp t) .dateTime ↔ t.time.nanos < 1000000000 ∨ t.time.second = 59 := by
  obtain ⟨date, time⟩ := t
  rw [(readsAs_timestamp _).readsBack_iff, Value.timestamp.injEq, Timestamp.mk.injEq]
  exact (and_iff_right rfl).trans TimeOfDay.shown_eq_self_iff

/-! ## Dates in timestamp columns -/

theorem readDate_of_conversion (h : Conversion.date.read text = .ok (.date d)) :
    Calendar.readDate text = .ok d := by
  rw [Conversion.read] at h
  cases hread : Calendar.readDate text with
  | error e =>
    rw [hread] at h
    cases h
  | ok day =>
    rw [hread] at h
    cases h
    rfl

/-- A text that is read as a date has no time, so its midnight is taken. -/
theorem readTimestamp_of_readDate (h : Calendar.readDate text = .ok d) :
    readTimestamp text = .ok (.timestamp ⟨d, .midnight⟩) := by
  rw [readTimestamp, Calendar.readDateTime_of_readDate h]
  dsimp only
  rw [h]

theorem coerce_dateTime_of_date (h : coerce raw FieldType.date.code = .ok (.date d)) :
    coerce raw FieldType.dateTime.code = .ok (.timestamp ⟨d, .midnight⟩) := by
  have hdate : conversion? FieldType.date.code = some .date := rfl
  have hdateTime : conversion? FieldType.dateTime.code = some .timestamp := rfl
  obtain ⟨b, s, rfl, hdecode, hread⟩ := exists_of_coerce hdate h nofun
  rw [coerce_of_decode? hdateTime hdecode]
  exact readTimestamp_of_readDate (readDate_of_conversion hread)

/-- **Dates and times are read back.** In all years of the calendar, the text between the quotes of a literal
    is read in a column of its type as follows:

    * every date as itself;
    * a time of day and a timestamp as itself exactly if it is no leap second, whatever its fraction, or the
      leap second at the end of a minute;
    * any other leap second as the second after it, with the same fraction.

    Whatever is read as a date in a date column is read as the midnight of that date in a timestamp column. -/
theorem readsBack_dateTime :
    (∀ d : Date, ReadsBack (.date d) .date) ∧
      (∀ t : TimeOfDay, ReadsBack (.time t) .time ↔ t.nanos < 1000000000 ∨ t.second = 59) ∧
      (∀ t : Timestamp,
        ReadsBack (.timestamp t) .dateTime ↔ t.time.nanos < 1000000000 ∨ t.time.second = 59) ∧
      (∀ t t' : TimeOfDay, 1000000000 ≤ t.nanos → t.second ≠ 59 →
        t'.hour = t.hour → t'.minute = t.minute → t'.second = t.second + 1 →
        t'.nanos = t.nanos - 1000000000 →
        ReadsAs (.time t) .time (.time t') ∧
          ∀ d : Date, ReadsAs (.timestamp ⟨d, t⟩) .dateTime (.timestamp ⟨d, t'⟩)) ∧
      ∀ (raw : Option Bytes) (d : Date), coerce raw FieldType.date.code = .ok (.date d) →
        coerce raw FieldType.dateTime.code = .ok (.timestamp ⟨d, .midnight⟩) := by
  refine ⟨readsBack_date, readsBack_time_iff, readsBack_timestamp_iff, ?_,
    fun _ _ => coerce_dateTime_of_date⟩
  intro t t' leap within hour minute second nanos
  rw [← TimeOfDay.shown_of_leap leap within hour minute second nanos]
  exact ⟨readsAs_time t, fun d => readsAs_timestamp ⟨d, t⟩⟩

/-- The leap second after 23:56:04, with a third of a second gone. -/
def leapWithinMinute : TimeOfDay := ⟨23, 56, 4, 1333333333, by decide⟩

/-- A leap day with blanks around it, in a date column and in a timestamp column; a leap second at the end of
    a minute, and one within. -/
theorem coerce_dateTime_leapDay :
    (∃ (raw : Option Bytes) (d : Date),
      raw = some (Bytes.encode " 2024-2-29 ") ∧ d.text = "2024-02-29".toList ∧
        coerce raw FieldType.date.code = .ok (.date d) ∧
          coerce raw FieldType.dateTime.code = .ok (.timestamp ⟨d, .midnight⟩)) ∧
    ReadsBack (.time ⟨23, 59, 59, 1999999999, by decide⟩) .time ∧
    1000000000 ≤ leapWithinMinute.nanos ∧ leapWithinMinute.second ≠ 59 ∧
    ReadsAs (.time leapWithinMinute) .time (.time ⟨23, 56, 5, 333333333, by decide⟩) := by
  have hdate : coerce (some (Bytes.encode " 2024-2-29 ")) FieldType.date.code =
      .ok (.date ⟨2024, 2, 29, by decide⟩) := by decide +kernel
  obtain ⟨-, times, -, leaps, midnights⟩ := readsBack_dateTime
  have next := leaps leapWithinMinute ⟨23, 56, 5, 333333333, by decide⟩ (by decide) (by decide) rfl rfl rfl
    (by decide)
  exact ⟨⟨_, _, rfl, by decide +kernel, hdate, midnights _ _ hdate⟩, (times _).mpr (.inr rfl), by decide,
    by decide, next.1⟩

/-- The leap second within a minute has the text of the second after it, and is not read back from it. -/
theorem not_readsBack_leapSecond :
    (∀ dialect ∈ [Dialect.portable, Dialect.mysql],
      dialect.literal (.time leapWithinMinute) = "'23:56:05.333333333'") ∧
    coerce (some (Bytes.encode "23:56:05.333333333")) FieldType.time.code =
      .ok (.time ⟨23, 56, 5, 333333333, by decide⟩) ∧
    ¬ReadsBack (.time leapWithinMinute) .time := by
  refine ⟨by decide +kernel, by decide +kernel, ?_⟩
  rw [readsBack_time_iff]
  decide

end SqlMapper
