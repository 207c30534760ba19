import SqlMapper.Text.CaseTable

/-!
# Letter case

Full case mapping of characters and words. A character may map to several (`ß` to `SS`), and the
lower case of a capital sigma depends on its place: at the end of a word it is the final form.

* `toUpper`, `toLower`: the full mapping of one character.
* `lowercase`: the lower case of a text, with the rule for the final sigma.
* `toLower_ascii`, `isUpper_ascii`, …: on ASCII everything is the plain rule of core.
-/

namespace SqlMapper.Text

/-! ## Properties and mappings of one character -/

/-- Whether a character is an upper case letter. -/
def isUpper (c : Char) : Bool :=
  if c.toNat < 128 then c.isUpper else inRuns uppercaseRuns c.toNat

/-- Whether a character is a lower case letter. -/
def isLower (c : Char) : Bool :=
  if c.toNat < 128 then c.isLower else inRuns lowercaseRuns c.toNat

/-- The full lower case of a character. -/
def toLower (c : Char) : List Char :=
  if c.toNat < 128 then [c.toLower]
  else match toLowerMany.lookup c.toNat with
    | some codes => codes.map Char.ofNat
    | none => [((shifted? toLowerShifts c.toNat).map Char.ofNat).getD c]

/-- The full upper case of a character. -/
def toUpper (c : Char) : List Char :=
  if c.toNat < 128 then [c.toUpper]
  else match toUpperMany.lookup c.toNat with
    | some codes => codes.map Char.ofNat
    | none => [((shifted? toUpperShifts c.toNat).map Char.ofNat).getD c]

/-! ## Words -/

/-- Whether a character counts as a letter with case when a word's end is looked for. -/
def isCased (c : Char) : Bool :=
  if c.toNat < 128 then c.isAlpha else inRuns casedRuns c.toNat

/-- Whether a character is skipped when a word's end is looked for. -/
def isCaseIgnorable (c : Char) : Bool :=
  if c.toNat < 128 then [0x27, 0x2E, 0x3A, 0x5E, 0x60].contains c.toNat
  else inRuns caseIgnorableRuns c.toNat

/-- Whether the first character that is not skipped has case. -/
def startsCased (s : List Char) : Bool :=
  ((s.dropWhile isCaseIgnorable).head?.map isCased).getD false

/-- The lower case of `s`, which stands after the characters `before` (nearest first). A capital
    sigma that ends a word, with a letter before it and none after it, becomes `ς`. -/
def lowercaseAfter : List Char → List Char → List Char
  | _, [] => []
  | before, c :: rest =>
    let mapped :=
      if c = 'Σ' then (if startsCased before && !startsCased rest then ['ς'] else ['σ'])
      else toLower c
    mapped ++ lowercaseAfter (c :: before) rest

/-- The lower case of a text. -/
def lowercase (s : List Char) : List Char := lowercaseAfter [] s

/-- A text with its first character in upper case and the rest as it is (`capitalize`). -/
def capitalize : List Char → List Char
  | [] => []
  | c :: rest => toUpper c ++ rest

/-! ## ASCII -/

theorem isUpper_ascii {c : Char} (h : c.toNat < 128) : isUpper c = c.isUpper := by
  simp [isUpper, h]

theorem isLower_ascii {c : Char} (h : c.toNat < 128) : isLower c = c.isLower := by
  simp [isLower, h]

theorem toLower_ascii {c : Char} (h : c.toNat < 128) : toLower c = [c.toLower] := by
  simp [toLower, h]

theorem toUpper_ascii {c : Char} (h : c.toNat < 128) : toUpper c = [c.toUpper] := by
  simp [toUpper, h]

/-- The lower case of an ASCII text is taken character by character. -/
theorem lowercaseAfter_ascii (before : List Char) {s : List Char} (h : ∀ c ∈ s, c.toNat < 128) :
    lowercaseAfter before s = s.map Char.toLower := by
  induction s generalizing before with
  | nil => rfl
  | cons c rest ih =>
    have hc : c.toNat < 128 := h c (by simp)
    have hs : c ≠ 'Σ' := by rintro rfl; exact absurd hc (by decide)
    simp [lowercaseAfter, hs, toLower_ascii hc,
      ih (c :: before) (fun d hd => h d (by simp [hd]))]

theorem lowercase_ascii {s : List Char} (h : ∀ c ∈ s, c.toNat < 128) :
    lowercase s = s.map Char.toLower :=
  lowercaseAfter_ascii [] h

end SqlMapper.Text
