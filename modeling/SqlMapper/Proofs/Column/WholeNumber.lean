import SqlMapper.Column.FieldType
import SqlMapper.Proofs.Column.Conversion
import SqlMapper.Proofs.Number.Numeral
import SqlMapper.Proofs.Text.Split

/-!
# Whole numbers read from columns

A column of a whole-number type delivers a number as it is written, with any number of digits. It is read
as what is left of the number without its fraction, or, beyond 64 bits, as the text of its whole part. What
is no number is refused; but a point alone, without a digit, is read as zero.

* `wholePart_text`: what is kept of a numeral is a sign and digits.
* `readInteger_text_of_fits`, `readInteger_text_of_not_fits`: numerals, on either side of the limits.
* `readInteger_barePoint`, `readInteger_of_other`: points alone, and other texts.
* `coerce_numeral`: every numeral, in columns of every whole-number type.
* `coerce_error_iff`: which texts are refused.
-/

namespace SqlMapper

open Number (Numeral Sign isDigits ofDigits pointed)

variable {text whole fraction ds : List Char} {code : UInt8} {s : String} {sign : Sign} {q : ℤ}

/-! ## Signs and digits -/

theorem unsignedPart_of_digits (h : ∀ c ∈ ds, c.isDigit = true) : unsignedPart ds = ds := by
  unfold unsignedPart
  split
  · next rest => cases h '-' List.mem_cons_self
  · next rest => cases h '+' List.mem_cons_self
  · rfl

theorem unsignedPart_signed (sign : Sign) (h : ∀ c ∈ ds, c.isDigit = true) :
    unsignedPart (sign.text ++ ds) = ds := by
  cases sign with
  | absent => exact unsignedPart_of_digits h
  | plus => rfl
  | minus => rfl

/-- Every text is a sign and something. -/
theorem exists_sign (text : List Char) : ∃ sign : Sign, text = sign.text ++ unsignedPart text := by
  unfold unsignedPart
  split
  · exact ⟨.minus, rfl⟩
  · exact ⟨.plus, rfl⟩
  · exact ⟨.absent, rfl⟩

theorem readInt?_signed (sign : Sign) (h : isDigits ds = true) :
    Number.readInt? (sign.text ++ ds) = some (sign.apply (ofDigits ds : ℤ)) := by
  have hread : Number.readNat? ds = some (ofDigits ds) := if_pos h
  cases sign with
  | absent =>
    show Number.readInt? ds = some (ofDigits ds : ℤ)
    unfold Number.readInt?
    split
    · next rest => cases (Number.isDigits_iff.mp h).2 '-' List.mem_cons_self
    · next rest => cases (Number.isDigits_iff.mp h).2 '+' List.mem_cons_self
    · rw [hread]
      rfl
  | plus =>
    show (Number.readNat? ds).map Int.ofNat = _
    rw [hread]
    rfl
  | minus =>
    show ((Number.readNat? ds).map fun n => -(n : ℤ)) = _
    rw [hread]
    rfl

theorem int64?_of_fits (h : -2 ^ 63 ≤ q ∧ q < 2 ^ 63) : ∃ i, int64? q = some i ∧ i.toInt = q :=
  ⟨Int64.ofInt q, if_pos h, Int64.toInt_ofInt_of_le h.1 h.2⟩

theorem int64?_of_not_fits (h : ¬ (-2 ^ 63 ≤ q ∧ q < 2 ^ 63)) : int64? q = none := if_neg h

/-! ## The part before the point -/

theorem wholePart_of_not_mem (h : '.' ∉ text) : wholePart text = text := by
  rw [wholePart, Text.splitAtFirst_of_not_mem h]

/-- A zero stands for digits that are missing before the point. -/
theorem wholePart_of_point (h : '.' ∉ whole) (hfraction : ∀ c ∈ fraction, c.isDigit = true) :
    wholePart (whole ++ '.' :: fraction) =
      if whole = [] ∨ whole = ['+'] then ['0'] else if whole = ['-'] then ['-', '0'] else whole := by
  have hall : fraction.all Char.isDigit = true := List.all_eq_true.mpr hfraction
  rw [wholePart, Text.splitAtFirst_append h]
  exact if_pos hall

theorem wholePart_of_ne_sign (h : '.' ∉ whole) (hfraction : ∀ c ∈ fraction, c.isDigit = true)
    (hsign : ∀ sign : Sign, whole ≠ sign.text) : wholePart (whole ++ '.' :: fraction) = whole := by
  have hbare : ¬ (whole = [] ∨ whole = ['+']) := not_or.mpr ⟨hsign .absent, hsign .plus⟩
  rw [wholePart_of_point h hfraction, if_neg hbare]
  exact if_neg (hsign .minus)

theorem wholePart_of_other (h : '.' ∉ whole) (hfraction : fraction.all Char.isDigit = false) :
    wholePart (whole ++ '.' :: fraction) = whole ++ '.' :: fraction := by
  rw [wholePart, Text.splitAtFirst_append h]
  exact if_neg (by simp [hfraction])

theorem point_not_mem (h : ∀ c ∈ ds, c.isDigit = true) (sign : Sign) : '.' ∉ sign.text ++ ds := by
  intro hmem
  rcases List.mem_append.mp hmem with hsign | hds
  · exact sign.point_not_mem_text hsign
  · cases h '.' hds

theorem front_ne_sign {n : Numeral} (h : n.whole ≠ []) (sign : Sign) : n.front ≠ sign.text := by
  obtain ⟨c, ds, hwhole⟩ := List.exists_cons_of_ne_nil h
  have hmem : c ∈ n.whole := hwhole ▸ List.mem_cons_self
  intro heq
  have hsign : c ∈ sign.text := heq ▸ List.mem_append_right n.sign.text hmem
  have hdigit := n.whole_digits c hmem
  rw [sign.isDigit_of_mem_text hsign] at hdigit
  cases hdigit

/-- Without digits before the point, a zero is kept, with or without a sign. -/
theorem wholePart_text_of_nil {n : Numeral} (h : n.whole = []) :
    ∃ kept : Sign, wholePart n.text = kept.text ++ ['0'] := by
  have hpoint : n.fraction? ≠ none := by
    intro hnone
    exact n.has_digit (by rw [h, hnone]; rfl)
  obtain ⟨fraction, hfraction⟩ := Option.ne_none_iff_exists'.mp hpoint
  have htext : n.text = n.sign.text ++ '.' :: fraction := by
    rw [Numeral.text, Numeral.front, h, hfraction, List.append_nil, pointed]
  rw [htext, wholePart_of_point n.sign.point_not_mem_text (Numeral.forall_isDigit_of_fraction hfraction)]
  cases n.sign with
  | absent => exact ⟨.absent, rfl⟩
  | plus => exact ⟨.absent, rfl⟩
  | minus => exact ⟨.minus, rfl⟩

/-- With digits before the point, the part before it is kept. -/
theorem wholePart_text_of_ne_nil {n : Numeral} (h : n.whole ≠ []) : wholePart n.text = n.front := by
  have hfront : '.' ∉ n.front := point_not_mem n.whole_digits n.sign
  unfold Numeral.text
  cases hfraction : n.fraction? with
  | none => rw [pointed, List.append_nil, wholePart_of_not_mem hfront]
  | some fraction =>
    exact wholePart_of_ne_sign hfront (Numeral.forall_isDigit_of_fraction hfraction) (front_ne_sign h)

/-- What is kept of a numeral is a sign and digits for the number without its fraction: the part before the
    point, unless there are no digits in it. -/
theorem wholePart_text (n : Numeral) :
    ∃ (sign : Sign) (ds : List Char), wholePart n.text = sign.text ++ ds ∧ isDigits ds = true ∧
      sign.apply (ofDigits ds : ℤ) = n.truncated ∧ (n.whole ≠ [] → sign.text ++ ds = n.front) := by
  rw [n.truncated_eq]
  by_cases hwhole : n.whole = []
  · -- The sign of a zero may be lost; the number is the same.
    obtain ⟨kept, hkept⟩ := wholePart_text_of_nil hwhole
    refine ⟨kept, ['0'], hkept, rfl, ?_, fun hne => absurd hwhole hne⟩
    rw [hwhole]
    cases kept
    all_goals cases n.sign
    all_goals rfl
  · exact ⟨n.sign, n.whole, wholePart_text_of_ne_nil hwhole,
      Number.isDigits_iff.mpr ⟨hwhole, n.whole_digits⟩, rfl, fun _ => rfl⟩

/-! ## Numerals -/

theorem readInteger_signed (hkept : wholePart text = sign.text ++ ds) (hds : isDigits ds = true) :
    readInteger text =
      match int64? (sign.apply (ofDigits ds : ℤ)) with
      | some i => .ok (.integer i)
      | none => .ok (.text (String.ofList (sign.text ++ ds))) := by
  unfold readInteger
  dsimp only
  rw [hkept, unsignedPart_signed sign (Number.isDigits_iff.mp hds).2, if_pos hds, readInt?_signed sign hds]
  rfl

/-- A numeral is read as the number without its fraction, if that fits 64 bits. -/
theorem readInteger_text_of_fits (n : Numeral) (h : -2 ^ 63 ≤ n.truncated ∧ n.truncated < 2 ^ 63) :
    ∃ i : Int64, readInteger n.text = .ok (.integer i) ∧ i.toInt = n.truncated := by
  obtain ⟨sign, ds, hkept, hds, hvalue, -⟩ := wholePart_text n
  obtain ⟨i, hi, hint⟩ := int64?_of_fits h
  refine ⟨i, ?_, hint⟩
  rw [readInteger_signed hkept hds, hvalue, hi]

/-- Otherwise it is read as the part before the point, as it is written. -/
theorem readInteger_text_of_not_fits (n : Numeral)
    (h : ¬ (-2 ^ 63 ≤ n.truncated ∧ n.truncated < 2 ^ 63)) :
    readInteger n.text = .ok (.text (String.ofList n.front)) := by
  obtain ⟨sign, ds, hkept, hds, hvalue, hfront⟩ := wholePart_text n
  have hwhole : n.whole ≠ [] := by
    intro hnil
    apply h
    rw [n.truncated_eq, hnil]
    cases n.sign
    all_goals decide
  rw [readInteger_signed hkept hds, hvalue, int64?_of_not_fits h, hfront hwhole]

/-- A numeral is read, whatever its size. -/
theorem exists_readInteger_text (n : Numeral) : ∃ v, readInteger n.text = .ok v := by
  by_cases h : -2 ^ 63 ≤ n.truncated ∧ n.truncated < 2 ^ 63
  · obtain ⟨i, hread, -⟩ := readInteger_text_of_fits n h
    exact ⟨_, hread⟩
  · exact ⟨_, readInteger_text_of_not_fits n h⟩

/-! ## Other texts -/

/-- Whether a text is a number as it is written. -/
def IsNumeral (text : List Char) : Prop := ∃ n : Numeral, n.text = text

/-- A point alone, or after a sign. -/
def IsBarePoint (text : List Char) : Prop := ∃ sign : Sign, text = sign.text ++ ['.']

theorem isNumeral_signed (sign : Sign) (hds : isDigits ds = true) (fraction? : Option (List Char))
    (hfraction : ∀ c ∈ fraction?.getD [], c.isDigit = true) :
    IsNumeral (sign.text ++ ds ++ pointed fraction?) := by
  obtain ⟨hne, hwhole⟩ := Number.isDigits_iff.mp hds
  exact ⟨⟨sign, ds, fraction?, hwhole, hfraction, List.append_ne_nil_of_left_ne_nil hne _⟩, rfl⟩

/-- A sign and a point, with any digits after it. -/
theorem isNumeral_or_isBarePoint (sign : Sign) (h : ∀ c ∈ fraction, c.isDigit = true) :
    IsNumeral (sign.text ++ '.' :: fraction) ∨ IsBarePoint (sign.text ++ '.' :: fraction) := by
  by_cases hnil : fraction = []
  · exact .inr ⟨sign, by rw [hnil]⟩
  · left
    refine ⟨⟨sign, [], some fraction, nofun, h, hnil⟩, ?_⟩
    rw [Numeral.text, Numeral.front, List.append_nil, pointed]

/-- If a sign and digits are kept of a text, it is a numeral, or a point without digits. -/
theorem isNumeral_or_isBarePoint_of_isDigits (h : isDigits (unsignedPart (wholePart text)) = true) :
    IsNumeral text ∨ IsBarePoint text := by
  rcases Text.splitAtFirst_cases '.' text with ⟨hpoint, -⟩ | ⟨whole, fraction, hpoint, rfl, -⟩
  · rw [wholePart_of_not_mem hpoint] at h
    obtain ⟨sign, htext⟩ := exists_sign text
    left
    have hnumeral := isNumeral_signed sign h none nofun
    rwa [← htext, pointed, List.append_nil] at hnumeral
  · by_cases hall : fraction.all Char.isDigit = true
    · have hfraction : ∀ c ∈ fraction, c.isDigit = true := List.all_eq_true.mp hall
      by_cases hsign : ∃ sign : Sign, whole = sign.text
      · -- A zero is filled in, so only the digits after the point tell.
        obtain ⟨sign, rfl⟩ := hsign
        exact isNumeral_or_isBarePoint sign hfraction
      · rw [wholePart_of_ne_sign hpoint hfraction (not_exists.mp hsign)] at h
        obtain ⟨sign, hwhole⟩ := exists_sign whole
        left
        have hnumeral := isNumeral_signed sign h (some fraction) hfraction
        rwa [← hwhole, pointed] at hnumeral
    · -- The point stays, and is no digit.
      rw [wholePart_of_other hpoint (Bool.eq_false_of_not_eq_true hall)] at h
      obtain ⟨sign, htext⟩ := exists_sign (whole ++ '.' :: fraction)
      have hmem : '.' ∈ whole ++ '.' :: fraction := List.mem_append_right whole List.mem_cons_self
      rw [htext] at hmem
      exact absurd hmem (point_not_mem (Number.isDigits_iff.mp h).2 sign)

theorem readInteger_barePoint (h : IsBarePoint text) : readInteger text = .ok (.integer 0) := by
  obtain ⟨sign, rfl⟩ := h
  cases sign
  all_goals rfl

theorem readInteger_of_other (hnumeral : ¬ IsNumeral text) (hpoint : ¬ IsBarePoint text) :
    readInteger text = .error (.integer text) := by
  apply if_neg
  intro h
  rcases isNumeral_or_isBarePoint_of_isDigits h with h | h
  · exact hnumeral h
  · exact hpoint h

/-- Numerals and points alone are read, and nothing else. -/
theorem readInteger_eq_error_iff :
    (∃ e, readInteger text = .error e) ↔ ¬ IsNumeral text ∧ ¬ IsBarePoint text := by
  constructor
  · rintro ⟨e, herror⟩
    constructor
    · rintro ⟨n, rfl⟩
      obtain ⟨v, hread⟩ := exists_readInteger_text n
      rw [hread] at herror
      cases herror
    · intro hpoint
      rw [readInteger_barePoint hpoint] at herror
      cases herror
  · rintro ⟨hnumeral, hpoint⟩
    exact ⟨_, readInteger_of_other hnumeral hpoint⟩

theorem not_isNumeral_of_isBarePoint (h : IsBarePoint text) : ¬ IsNumeral text := by
  obtain ⟨sign, rfl⟩ := h
  rintro ⟨n, htext⟩
  obtain ⟨c, hdigit, hc⟩ := n.exists_digit
  rw [htext] at hc
  rcases List.mem_append.mp hc with hsign | hpoint
  · rw [sign.isDigit_of_mem_text hsign] at hdigit
    cases hdigit
  · rw [List.mem_singleton.mp hpoint] at hdigit
    cases hdigit

/-! ## Columns -/

/-- **Numbers in whole-number columns.** Every number as it is written, with blanks around it or without,
    of any length, is read in a column of any whole-number type: as the number without its fraction if that
    fits 64 bits, and otherwise as the part before the point, as it is written. -/
theorem coerce_numeral (hcode : conversion? code = some .integer) (n : Numeral)
    (hs : Text.trim s.toList = n.text) :
    (-2 ^ 63 ≤ n.truncated ∧ n.truncated < 2 ^ 63 →
      ∃ i : Int64, coerce (some (Bytes.encode s)) code = .ok (.integer i) ∧ i.toInt = n.truncated) ∧
    (¬ (-2 ^ 63 ≤ n.truncated ∧ n.truncated < 2 ^ 63) →
      coerce (some (Bytes.encode s)) code = .ok (.text (String.ofList n.front))) := by
  rw [coerce_encode hcode, Conversion.read, hs]
  exact ⟨readInteger_text_of_fits n, readInteger_text_of_not_fits n⟩

/-- The least number of 64 bits, with a fraction, and the next one below it. -/
theorem coerce_numeral_least :
    (∃ n : Numeral, Text.trim " -9223372036854775808.9 ".toList = n.text ∧
      ∃ i : Int64, coerce (some (Bytes.encode " -9223372036854775808.9 ")) FieldType.longLong.code =
        .ok (.integer i) ∧ i.toInt = n.truncated) ∧
    (∃ n : Numeral, Text.trim "-9223372036854775809.".toList = n.text ∧
      coerce (some (Bytes.encode "-9223372036854775809.")) FieldType.longLong.code =
        .ok (.text (String.ofList n.front))) := by
  constructor
  · let n : Numeral := ⟨.minus, "9223372036854775808".toList, some ['9'], List.all_eq_true.mp (by decide),
      List.all_eq_true.mp (by decide), by decide⟩
    have hs : Text.trim " -9223372036854775808.9 ".toList = n.text := by decide
    have hfits : -2 ^ 63 ≤ n.truncated ∧ n.truncated < 2 ^ 63 := by
      rw [n.truncated_eq]
      decide
    exact ⟨n, hs, (coerce_numeral rfl n hs).1 hfits⟩
  · let n : Numeral := ⟨.minus, "9223372036854775809".toList, some [], List.all_eq_true.mp (by decide),
      nofun, by decide⟩
    have hs : Text.trim "-9223372036854775809.".toList = n.text := by decide
    have hfits : ¬ (-2 ^ 63 ≤ n.truncated ∧ n.truncated < 2 ^ 63) := by
      rw [n.truncated_eq]
      decide
    exact ⟨n, hs, (coerce_numeral rfl n hs).2 hfits⟩

/-- **What whole-number columns refuse.** A text, with blanks around it or without, is refused in a column
    of any whole-number type exactly if it is neither a number as it is written nor a point without digits,
    and then the error names it. A point without digits is read as zero. -/
theorem coerce_error_iff (hcode : conversion? code = some .integer) (s : String) :
    ((∃ e, coerce (some (Bytes.encode s)) code = .error e) ↔
      ¬ IsNumeral (Text.trim s.toList) ∧ ¬ IsBarePoint (Text.trim s.toList)) ∧
    (∀ e, coerce (some (Bytes.encode s)) code = .error e → e = .integer (Text.trim s.toList)) ∧
    (IsBarePoint (Text.trim s.toList) → coerce (some (Bytes.encode s)) code = .ok (.integer 0)) := by
  rw [coerce_encode hcode, Conversion.read]
  refine ⟨readInteger_eq_error_iff, ?_, readInteger_barePoint⟩
  intro e herror
  obtain ⟨hnumeral, hpoint⟩ := readInteger_eq_error_iff.mp ⟨e, herror⟩
  rw [readInteger_of_other hnumeral hpoint] at herror
  cases herror
  rfl

/-- A sign and a point, with a blank after them. -/
theorem coerce_error_plus_point : IsBarePoint (Text.trim "+. ".toList) ∧
    coerce (some (Bytes.encode "+. ")) FieldType.longLong.code = .ok (.integer 0) ∧
      ¬ ∃ e, coerce (some (Bytes.encode "+. ")) FieldType.longLong.code = .error e := by
  have hpoint : IsBarePoint (Text.trim "+. ".toList) := ⟨.plus, by decide⟩
  have hcode : conversion? FieldType.longLong.code = some .integer := rfl
  obtain ⟨hrefused, -, hzero⟩ := coerce_error_iff hcode "+. "
  exact ⟨hpoint, hzero hpoint, fun herror => (hrefused.mp herror).2 hpoint⟩

/-- A point alone is no number, but is not refused. -/
theorem coerce_point_eq_zero : ¬ IsNumeral (Text.trim ".".toList) ∧
    coerce (some (Bytes.encode ".")) FieldType.longLong.code = .ok (.integer 0) := by
  have hpoint : IsBarePoint (Text.trim ".".toList) := ⟨.absent, by decide⟩
  refine ⟨not_isNumeral_of_isBarePoint hpoint, ?_⟩
  have hcode : conversion? FieldType.longLong.code = some .integer := rfl
  rw [coerce_encode hcode, Conversion.read, readInteger_barePoint hpoint]

end SqlMapper
