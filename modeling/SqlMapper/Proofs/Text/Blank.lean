import SqlMapper.Text.Blank

/-!
# Texts without blanks around them

A text that neither begins nor ends with a blank is left alone when blanks are cut off its ends, whatever
stands between its first and its last character.

* `Trimmed`: texts of that kind. `Trimmed.around`: they may stand around any text.
* `Trimmed.trim_eq`: nothing is cut off.
* `isBlank_of_isDigit`: digits are no blanks.
-/

namespace SqlMapper.Text

variable {s t : List Char} {c : Char}

theorem isBlank_of_isDigit (h : c.isDigit = true) : isBlank c = false := by
  have digit : '0'.toNat ≤ c.toNat ∧ c.toNat ≤ '9'.toNat := Char.isDigit_iff_toNat.mp h
  have hlow : 48 ≤ c.toNat := digit.1
  have hhigh : c.toNat ≤ 57 := digit.2
  simp only [isBlank, Bool.or_eq_false_iff, Bool.and_eq_false_iff, decide_eq_false_iff_not,
    beq_eq_false_iff_ne]
  omega

theorem trimStart_cons (h : isBlank c = false) (s : List Char) : trimStart (c :: s) = c :: s :=
  List.dropWhile_cons_of_neg (by simp [h])

/-- No blank at its beginning, and none at its end. -/
structure Trimmed (s : List Char) : Prop where
  first : ∃ c rest, s = c :: rest ∧ isBlank c = false
  last : ∃ before c, s = before ++ [c] ∧ isBlank c = false

namespace Trimmed

theorem trim_eq (h : Trimmed s) : trim s = s := by
  obtain ⟨c, rest, hs, hc⟩ := h.first
  obtain ⟨before, d, hs', hd⟩ := h.last
  have hstart : trimStart s = s := by
    rw [hs]
    exact trimStart_cons hc rest
  have hend : s.reverse.dropWhile isBlank = s.reverse := by
    rw [hs', List.reverse_append]
    exact List.dropWhile_cons_of_neg (by simp [hd])
  show trimEnd (trimStart s) = s
  rw [hstart, trimEnd, hend, List.reverse_reverse]

/-- Whatever stands between two such texts. -/
theorem around (hs : Trimmed s) (middle : List Char) (ht : Trimmed t) :
    Trimmed (s ++ middle ++ t) := by
  obtain ⟨c, rest, rfl, hc⟩ := hs.first
  obtain ⟨before, d, rfl, hd⟩ := ht.last
  exact ⟨⟨c, _, rfl, hc⟩, ⟨_, d, (List.append_assoc _ before [d]).symm, hd⟩⟩

theorem cons (hc : isBlank c = false) (h : Trimmed s) : Trimmed (c :: s) := by
  obtain ⟨before, d, rfl, hd⟩ := h.last
  exact ⟨⟨c, _, rfl, hc⟩, ⟨c :: before, d, rfl, hd⟩⟩

end Trimmed

theorem trimmed_digits (hne : s ≠ []) (h : ∀ c ∈ s, c.isDigit = true) : Trimmed s := by
  constructor
  · obtain ⟨c, rest, rfl⟩ := List.exists_cons_of_ne_nil hne
    exact ⟨c, rest, rfl, isBlank_of_isDigit (h c List.mem_cons_self)⟩
  · refine ⟨s.dropLast, s.getLast hne, (List.dropLast_concat_getLast hne).symm, ?_⟩
    exact isBlank_of_isDigit (h _ (List.getLast_mem hne))

end SqlMapper.Text
