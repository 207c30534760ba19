import SqlMapper.Text.Case

/-!
# Texts in lower case

The lower case of a text is in lower case: no shift of the case table leads to a character that is moved
on by another.

* `toNat_toLower`, `toNat_toUpper`: the letters of ASCII, by their code points.
* `toLower_of_mem_toLower`: the characters that a character is sent to stay where they are.
* `lowercase_eq_self_iff`: the texts that are their own lower case.
-/

namespace SqlMapper.Text

/-! ## Letters of ASCII -/

section Ascii

variable {c : Char}

theorem isUpper_iff_toNat : c.isUpper = true ↔ 65 ≤ c.toNat ∧ c.toNat ≤ 90 := by
  change decide (c.val ≥ 65 ∧ c.val ≤ 90) = true ↔ _
  simp [UInt32.le_iff_toNat_le]

theorem isLower_iff_toNat : c.isLower = true ↔ 97 ≤ c.toNat ∧ c.toNat ≤ 122 := by
  change (decide (c.val ≥ 97) && decide (c.val ≤ 122)) = true ↔ _
  simp [UInt32.le_iff_toNat_le]

theorem isAlpha_eq (c : Char) : c.isAlpha = (c.isUpper || c.isLower) := rfl

theorem toNat_toLower (c : Char) : c.toLower.toNat = if c.isUpper then c.toNat + 32 else c.toNat := by
  unfold Char.toLower
  split
  · next hupper =>
    have hbound : 65 ≤ c.toNat ∧ c.toNat ≤ 90 := by simpa [UInt32.le_iff_toNat_le] using hupper
    rw [if_pos (isUpper_iff_toNat.mpr hbound)]
    change (c.val + 32).toNat = c.toNat + 32
    simp only [UInt32.toNat_add, Char.toNat_val, UInt32.reduceToNat]
    omega
  · next hupper =>
    have hbound : ¬(65 ≤ c.toNat ∧ c.toNat ≤ 90) := by simpa [UInt32.le_iff_toNat_le] using hupper
    rw [if_neg fun h => hbound (isUpper_iff_toNat.mp h)]

/-- The distance of the capitals is added as one modulo `2 ^ 32`. -/
theorem toNat_toUpper (c : Char) : c.toUpper.toNat = if c.isLower then c.toNat - 32 else c.toNat := by
  unfold Char.toUpper
  split
  · next hlower =>
    have hbound : 97 ≤ c.toNat ∧ c.toNat ≤ 122 := by simpa [UInt32.le_iff_toNat_le] using hlower
    rw [if_pos (isLower_iff_toNat.mpr hbound)]
    change (c.val + 4294967264).toNat = c.toNat - 32
    simp only [UInt32.toNat_add, Char.toNat_val, UInt32.reduceToNat]
    omega
  · next hlower =>
    have hbound : ¬(97 ≤ c.toNat ∧ c.toNat ≤ 122) := by simpa [UInt32.le_iff_toNat_le] using hlower
    rw [if_neg fun h => hbound (isLower_iff_toNat.mp h)]

theorem not_isUpper_of_isLower (h : c.isLower = true) : ¬c.isUpper = true := by
  rw [isLower_iff_toNat] at h
  rw [isUpper_iff_toNat]
  omega

/-- Only capitals are moved. -/
theorem toLower_of_not_isUpper (h : ¬c.isUpper = true) : c.toLower = c :=
  Char.toNat_inj.mp (by rw [toNat_toLower, if_neg h])

/-- Only small letters are moved. -/
theorem toUpper_of_not_isLower (h : ¬c.isLower = true) : c.toUpper = c :=
  Char.toNat_inj.mp (by rw [toNat_toUpper, if_neg h])

theorem isLower_toLower (h : c.isUpper = true) : c.toLower.isLower = true := by
  rw [isLower_iff_toNat, toNat_toLower, if_pos h]
  rw [isUpper_iff_toNat] at h
  omega

theorem isUpper_toUpper (h : c.isLower = true) : c.toUpper.isUpper = true := by
  rw [isUpper_iff_toNat, toNat_toUpper, if_pos h]
  rw [isLower_iff_toNat] at h
  omega

theorem toUpper_toLower (h : c.isUpper = true) : c.toLower.toUpper = c :=
  Char.toNat_inj.mp (by rw [toNat_toUpper, if_pos (isLower_toLower h), toNat_toLower, if_pos h]; omega)

/-- A character that is no capital is the small letter of its capital. -/
theorem toLower_toUpper (h : ¬c.isUpper = true) : c.toUpper.toLower = c := by
  apply Char.toNat_inj.mp
  by_cases hlower : c.isLower = true
  · have hbound := isLower_iff_toNat.mp hlower
    rw [toNat_toLower, if_pos (isUpper_toUpper hlower), toNat_toUpper, if_pos hlower]
    omega
  · rw [toUpper_of_not_isLower hlower, toLower_of_not_isUpper h]

theorem toNat_ofNat {n : Nat} (h : n.isValidChar) : (Char.ofNat n).toNat = n := by
  rw [Char.ofNat, dif_pos h]
  rfl

end Ascii

/-! ## Shifts that lead past the table -/

namespace CodeShift

variable (s : CodeShift)

/-- The code point that the last member of the run is sent to. -/
def final : Nat := s.target + (s.run.last - s.run.first)

/-- Whether a shift leads past a run: it begins after the run, ends before it, or falls between its
    members. -/
def misses (r : CodeRun) : Bool :=
  r.last.blt s.target || s.final.blt r.first ||
    (r.step == 2 && (s.run.step == 2 || s.run.first == s.run.last) && s.target % 2 != r.first % 2)

/-- Whether a shift leads to characters that no rule beside the shifts moves on. Of the letters of ASCII,
    only the `k` has another character that is sent to it. -/
def lands : Bool :=
  ((0x130).blt s.target || s.final.blt 0x130) &&
    (s.final.blt 0xD800 || (0xDFFF).blt s.target && s.final.blt 0x110000) &&
    (Nat.ble 128 s.target || s.target == 'k'.toNat && s.final == 'k'.toNat)

variable {s} {r : CodeRun} {n : Nat}

theorem contains_eq_false_of_misses (h : s.misses r = true) (hn : s.run.contains n = true) :
    r.contains (s.target + (n - s.run.first)) = false := by
  simp only [misses, final, Bool.or_eq_true, Bool.and_eq_true, Nat.blt_eq, beq_iff_eq, bne_iff_ne] at h
  simp only [CodeRun.contains, Bool.and_eq_true, decide_eq_true_eq, beq_iff_eq] at hn
  obtain ⟨⟨hfirst, hlast⟩, hstep⟩ := hn
  rw [Bool.eq_false_iff]
  intro hr
  simp only [CodeRun.contains, Bool.and_eq_true, decide_eq_true_eq, beq_iff_eq] at hr
  obtain ⟨⟨hfirst', hlast'⟩, hstep'⟩ := hr
  rcases h with (h | h) | ⟨⟨htwo, h⟩, hparity⟩
  · omega
  · omega
  · rw [htwo] at hstep'
    rcases h with h | h
    · rw [h] at hstep
      omega
    · omega

end CodeShift

theorem toLowerShifts_misses {s s' : CodeShift} (hs : s ∈ toLowerShifts) (hs' : s' ∈ toLowerShifts) :
    s.misses s'.run = true := by
  have hall : (toLowerShifts.all fun s => toLowerShifts.all fun s' => s.misses s'.run) = true := by
    decide +kernel
  exact List.all_eq_true.mp (List.all_eq_true.mp hall s hs) s' hs'

theorem toLowerShifts_lands {s : CodeShift} (hs : s ∈ toLowerShifts) : s.lands = true := by
  have hall : (toLowerShifts.all CodeShift.lands) = true := by decide +kernel
  exact List.all_eq_true.mp hall s hs

/-- Where the characters lie that a shift leads to. -/
theorem target_cases {s : CodeShift} {n : Nat} (hs : s ∈ toLowerShifts)
    (hn : s.run.contains n = true) :
    s.target + (n - s.run.first) = 'k'.toNat ∨
      128 ≤ s.target + (n - s.run.first) ∧ s.target + (n - s.run.first) ≠ 0x130 ∧
        (s.target + (n - s.run.first)).isValidChar := by
  have hlands := toLowerShifts_lands hs
  simp only [CodeShift.lands, CodeShift.final, Bool.or_eq_true, Bool.and_eq_true, Nat.blt_eq, Nat.ble_eq,
    beq_iff_eq] at hlands
  simp only [CodeRun.contains, Bool.and_eq_true, decide_eq_true_eq] at hn
  obtain ⟨⟨hmany, hvalid⟩, hascii | hk⟩ := hlands
  · refine .inr ⟨by omega, by omega, ?_⟩
    unfold Nat.isValidChar
    omega
  · exact .inl (by omega)

/-! ## One character -/

theorem lookup_toLowerMany {n : Nat} (h : n ≠ 0x130) : toLowerMany.lookup n = none := by
  have hb : (n == 0x130) = false := by simpa using h
  simp [toLowerMany, List.lookup_cons, hb]

theorem toLower_eq_self {c : Char} (hascii : 128 ≤ c.toNat) (hmany : c.toNat ≠ 0x130)
    (hshift : shifted? toLowerShifts c.toNat = none) : toLower c = [c] := by
  rw [toLower, if_neg (by omega), lookup_toLowerMany hmany]
  simp [hshift]

/-- The ways in which a character is sent to another: as in ASCII, not at all, from the dotted capital to
    two characters, or by a shift. -/
theorem mem_toLower_cases {c d : Char} (h : d ∈ toLower c) :
    (c.toNat < 128 ∧ d = c.toLower) ∨ (d = c ∧ toLower c = [c]) ∨ (d = 'i' ∨ d = '\u0307') ∨
      ∃ s ∈ toLowerShifts, ∃ n, s.run.contains n = true ∧
        d = Char.ofNat (s.target + (n - s.run.first)) := by
  by_cases hascii : c.toNat < 128
  · rw [toLower_ascii hascii] at h
    exact .inl ⟨hascii, List.mem_singleton.mp h⟩
  by_cases hmany : c.toNat = 0x130
  · have hlookup : toLowerMany.lookup c.toNat = some [0x69, 0x307] := by
      rw [hmany]
      rfl
    rw [toLower, if_neg hascii, hlookup] at h
    have hpair : d ∈ ['i', '\u0307'] := h
    exact .inr (.inr (.inl (by simpa using hpair)))
  cases hshift : shifted? toLowerShifts c.toNat with
  | none =>
    have hself := toLower_eq_self (by omega) hmany hshift
    rw [hself] at h
    exact .inr (.inl ⟨List.mem_singleton.mp h, hself⟩)
  | some t =>
    obtain ⟨s, hfind, ht⟩ := Option.map_eq_some_iff.mp hshift
    rw [toLower, if_neg hascii, lookup_toLowerMany hmany] at h
    simp only [hshift, Option.map_some, Option.getD_some, List.mem_singleton] at h
    have hn := List.find?_some hfind
    exact .inr (.inr (.inr ⟨s, List.mem_of_find?_eq_some hfind, c.toNat, hn, ht ▸ h⟩))

/-- The characters that a character is sent to stay where they are. -/
theorem toLower_of_mem_toLower {c d : Char} (h : d ∈ toLower c) : toLower d = [d] := by
  rcases mem_toLower_cases h with ⟨hascii, rfl⟩ | ⟨rfl, hself⟩ | (rfl | rfl) | ⟨s, hs, n, hn, rfl⟩
  · by_cases hupper : c.isUpper = true
    · have hlower := isLower_toLower hupper
      have hbound := isLower_iff_toNat.mp hlower
      rw [toLower_ascii (by omega), toLower_of_not_isUpper (not_isUpper_of_isLower hlower)]
    · rw [toLower_of_not_isUpper hupper, toLower_ascii hascii, toLower_of_not_isUpper hupper]
  · exact hself
  · decide
  · decide +kernel
  · rcases target_cases hs hn with ht | ⟨hascii, hmany, hvalid⟩
    · rw [ht]
      decide
    · have hshift : shifted? toLowerShifts (s.target + (n - s.run.first)) = none := by
        rw [shifted?, Option.map_eq_none_iff, List.find?_eq_none]
        intro s' hs'
        simp [CodeShift.contains_eq_false_of_misses (toLowerShifts_misses hs hs') hn]
      have ht := toNat_ofNat hvalid
      exact toLower_eq_self (ht.symm ▸ hascii) (ht.symm ▸ hmany) (ht.symm ▸ hshift)

/-- Only the underscore is sent to it. -/
theorem eq_of_underscore_mem_toLower {c : Char} (h : '_' ∈ toLower c) : c = '_' := by
  rcases mem_toLower_cases h with ⟨-, heq⟩ | ⟨heq, -⟩ | (heq | heq) | ⟨s, hs, n, hn, heq⟩
  · have hupper : ¬c.isUpper = true := by
      intro hupper
      have hlower := isLower_toLower hupper
      rw [← heq] at hlower
      exact absurd hlower (by decide)
    rw [heq, toLower_of_not_isUpper hupper]
  · exact heq.symm
  · exact absurd heq (by decide)
  · exact absurd heq (by decide)
  · have hunderscore : '_'.toNat = 95 := rfl
    rcases target_cases hs hn with hk | ⟨hascii, -, hvalid⟩
    · rw [hk] at heq
      exact absurd heq (by decide)
    · have ht := toNat_ofNat hvalid
      rw [← heq] at ht
      omega

/-! ## Texts -/

variable {s : List Char}

/-- What the lower case of a text is made of. -/
theorem mem_lowercaseAfter {before : List Char} {d : Char} (h : d ∈ lowercaseAfter before s) :
    d = 'ς' ∨ ∃ c ∈ s, d ∈ toLower c := by
  induction s generalizing before with
  | nil => cases h
  | cons c s ih =>
    rw [lowercaseAfter] at h
    rcases List.mem_append.mp h with hd | h
    · split at hd
      · next hsigma =>
        subst hsigma
        split at hd
        · exact .inl (List.mem_singleton.mp hd)
        · have hsmall : d ∈ toLower 'Σ' := List.mem_singleton.mp hd ▸ by decide +kernel
          exact .inr ⟨'Σ', List.mem_cons_self, hsmall⟩
      · exact .inr ⟨c, List.mem_cons_self, hd⟩
    · rcases ih h with h | ⟨c', hc', h⟩
      · exact .inl h
      · exact .inr ⟨c', List.mem_cons_of_mem c hc', h⟩

/-- Every character of a text in lower case stays where it is. -/
theorem toLower_of_mem_lowercase {d : Char} (h : d ∈ lowercase s) : toLower d = [d] := by
  rcases mem_lowercaseAfter h with rfl | ⟨c, -, hd⟩
  · decide +kernel
  · exact toLower_of_mem_toLower hd

theorem underscore_mem_of_mem_lowercase (h : '_' ∈ lowercase s) : '_' ∈ s := by
  rcases mem_lowercaseAfter h with h | ⟨c, hc, hd⟩
  · exact absurd h (by decide)
  · exact eq_of_underscore_mem_toLower hd ▸ hc

theorem lowercaseAfter_eq_self (before : List Char) (h : ∀ c ∈ s, toLower c = [c]) :
    lowercaseAfter before s = s := by
  induction s generalizing before with
  | nil => rfl
  | cons c s ih =>
    obtain ⟨hc, hs⟩ := List.forall_mem_cons.mp h
    have hsigma : c ≠ 'Σ' := by
      rintro rfl
      exact absurd hc (by decide +kernel)
    rw [lowercaseAfter, if_neg hsigma, hc, ih _ hs]
    rfl

/-- The texts that are their own lower case. -/
theorem lowercase_eq_self_iff : lowercase s = s ↔ ∀ c ∈ s, toLower c = [c] :=
  ⟨fun h _ hc => toLower_of_mem_lowercase (h.symm ▸ hc), lowercaseAfter_eq_self []⟩

end SqlMapper.Text
