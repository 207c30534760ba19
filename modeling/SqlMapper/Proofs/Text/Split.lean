import Mathlib.Data.List.TakeWhile
import SqlMapper.Text.Split

/-!
# Texts taken apart

What was put together is taken apart again, where the parts hold no separator.

* `splitOn_joinWith`: the parts between separators.
* `splitAtFirst_append`, `splitAtLast?_append`: the two parts around one separator.
* `dropSuffix?_append`: the part before an ending.
* `replaceChar_of_not_mem`: where nothing is to be replaced.
-/

namespace SqlMapper.Text

variable {sep : Char} {s part : List Char} {parts : List (List Char)}

/-! ## All separators -/

theorem splitOn_of_not_mem (h : sep ∉ s) : splitOn sep s = [s] := by
  induction s with
  | nil => rfl
  | cons c s ih =>
    have hc : c ≠ sep := fun heq => h (heq ▸ List.mem_cons_self)
    simp [splitOn, hc, ih fun hmem => h (List.mem_cons_of_mem c hmem)]

/-- The first part ends at the first separator. -/
theorem splitOn_append (h : sep ∉ part) (s : List Char) :
    splitOn sep (part ++ sep :: s) = part :: splitOn sep s := by
  induction part with
  | nil => simp [splitOn]
  | cons c part ih =>
    have hc : c ≠ sep := fun heq => h (heq ▸ List.mem_cons_self)
    simp [splitOn, hc, ih fun hmem => h (List.mem_cons_of_mem c hmem)]

/-- Parts without separators are found again between the separators that join them. -/
theorem splitOn_joinWith (hne : parts ≠ []) (h : ∀ part ∈ parts, sep ∉ part) :
    splitOn sep (joinWith [sep] parts) = parts := by
  induction parts with
  | nil => exact absurd rfl hne
  | cons part parts ih =>
    obtain ⟨hpart, hparts⟩ := List.forall_mem_cons.mp h
    cases parts with
    | nil => exact splitOn_of_not_mem hpart
    | cons next parts =>
      rw [joinWith, List.append_assoc, List.singleton_append, splitOn_append hpart,
        ih (List.cons_ne_nil _ _) hparts]

/-- A part holds characters of the text, and no separator. -/
theorem mem_of_mem_splitOn {c : Char} (hpart : part ∈ splitOn sep s) (hc : c ∈ part) :
    c ∈ s ∧ c ≠ sep := by
  induction s generalizing part with
  | nil =>
    obtain rfl := List.mem_singleton.mp hpart
    cases hc
  | cons d s ih =>
    by_cases hd : d = sep
    · rw [splitOn, if_pos hd] at hpart
      rcases List.mem_cons.mp hpart with rfl | hpart
      · cases hc
      · exact ⟨List.mem_cons_of_mem d (ih hpart hc).1, (ih hpart hc).2⟩
    · obtain ⟨first, others, hsplit⟩ := List.exists_cons_of_ne_nil (splitOn_ne_nil sep s)
      have inside : ∀ {p : List Char}, p ∈ first :: others → c ∈ p → c ∈ d :: s ∧ c ≠ sep := by
        intro p hp hcp
        have hmem := ih (hsplit ▸ hp) hcp
        exact ⟨List.mem_cons_of_mem d hmem.1, hmem.2⟩
      rw [splitOn, if_neg hd, hsplit] at hpart
      rcases List.mem_cons.mp hpart with rfl | hpart
      · rcases List.mem_cons.mp hc with rfl | hc
        · exact ⟨List.mem_cons_self, hd⟩
        · exact inside List.mem_cons_self hc
      · exact inside (List.mem_cons_of_mem first hpart) hc

/-- After the first part, each part has the separator before it. -/
theorem joinWith_cons (sep part : List Char) (parts : List (List Char)) :
    joinWith sep (part :: parts) = part ++ parts.flatMap (sep ++ ·) := by
  induction parts generalizing part with
  | nil => exact (List.append_nil part).symm
  | cons next parts ih => rw [joinWith, ih next, List.flatMap_cons, List.append_assoc, List.append_assoc]

/-- One more part is joined at the end. -/
theorem joinWith_concat (sep : List Char) (hne : parts ≠ []) (part : List Char) :
    joinWith sep (parts ++ [part]) = joinWith sep parts ++ sep ++ part := by
  induction parts with
  | nil => exact absurd rfl hne
  | cons first parts ih =>
    cases parts with
    | nil => rfl
    | cons next parts =>
      show first ++ sep ++ joinWith sep (next :: parts ++ [part]) = _
      rw [ih (List.cons_ne_nil _ _), joinWith]
      simp only [List.append_assoc]

/-- What a joined text is made of. -/
theorem mem_joinWith {c : Char} (hc : c ∈ joinWith [sep] parts) :
    c = sep ∨ ∃ part ∈ parts, c ∈ part := by
  induction parts with
  | nil => cases hc
  | cons part parts ih =>
    cases parts with
    | nil => exact .inr ⟨part, List.mem_cons_self, hc⟩
    | cons next parts =>
      rw [joinWith, List.append_assoc] at hc
      rcases List.mem_append.mp hc with hc | hc
      · exact .inr ⟨part, List.mem_cons_self, hc⟩
      · rcases List.mem_cons.mp hc with rfl | hc
        · exact .inl rfl
        · rcases ih hc with rfl | ⟨p, hp, hcp⟩
          · exact .inl rfl
          · exact .inr ⟨p, List.mem_cons_of_mem part hp, hcp⟩

/-! ## One separator -/

theorem bne_of_not_mem (h : sep ∉ s) : ∀ c ∈ s, (c != sep) = true := by
  intro c hc
  rw [bne_iff_ne]
  rintro rfl
  exact h hc

theorem splitAtFirst_of_not_mem (h : sep ∉ s) : splitAtFirst sep s = (s, none) := by
  have hne := bne_of_not_mem h
  rw [splitAtFirst, List.takeWhile_eq_self_iff.mpr hne, List.dropWhile_eq_nil_iff.mpr hne]
  rfl

theorem splitAtFirst_append (h : sep ∉ part) (s : List Char) :
    splitAtFirst sep (part ++ sep :: s) = (part, some s) := by
  have hne := bne_of_not_mem h
  rw [splitAtFirst, List.takeWhile_append_of_pos hne, List.dropWhile_append_of_pos hne]
  simp

/-- A text holds no separator, or it is taken apart at the first one. -/
theorem splitAtFirst_cases (sep : Char) (s : List Char) :
    (sep ∉ s ∧ splitAtFirst sep s = (s, none)) ∨
      ∃ part rest, sep ∉ part ∧ s = part ++ sep :: rest ∧ splitAtFirst sep s = (part, some rest) := by
  by_cases hmem : sep ∈ s
  · obtain ⟨part, rest, rfl, hpart⟩ := List.eq_append_cons_of_mem hmem
    exact .inr ⟨part, rest, hpart, rfl, splitAtFirst_append hpart rest⟩
  · exact .inl ⟨hmem, splitAtFirst_of_not_mem hmem⟩

theorem splitAtLast?_of_not_mem (h : sep ∉ s) : splitAtLast? sep s = none := if_neg h

theorem splitAtLast?_append (h : sep ∉ part) (s : List Char) :
    splitAtLast? sep (s ++ sep :: part) = some (s, part) := by
  have hne := bne_of_not_mem fun hmem => h (List.mem_reverse.mp hmem)
  have hmem : sep ∈ s ++ sep :: part := List.mem_append_right s List.mem_cons_self
  have hreverse : (s ++ sep :: part).reverse = part.reverse ++ sep :: s.reverse := by simp
  rw [splitAtLast?, if_pos hmem, hreverse, List.dropWhile_append_of_pos hne,
    List.takeWhile_append_of_pos hne]
  simp

/-- The two parts around the last separator make up the text, and the second holds none. -/
theorem eq_of_splitAtLast? {front : List Char} (h : splitAtLast? sep s = some (front, part)) :
    s = front ++ sep :: part ∧ sep ∉ part := by
  by_cases hmem : sep ∈ s
  · obtain ⟨back, rest, hreverse, hback⟩ := List.eq_append_cons_of_mem (List.mem_reverse.mpr hmem)
    have hs : s = rest.reverse ++ sep :: back.reverse := by
      rw [← List.reverse_inj, hreverse]
      simp
    have hlast : sep ∉ back.reverse := fun hmem => hback (List.mem_reverse.mp hmem)
    rw [hs, splitAtLast?_append hlast] at h
    obtain ⟨rfl, rfl⟩ := Prod.mk.inj (Option.some.inj h)
    exact ⟨hs, hlast⟩
  · rw [splitAtLast?_of_not_mem hmem] at h
    cases h

/-! ## Endings -/

theorem dropSuffix?_append (front ending : List Char) :
    dropSuffix? ending (front ++ ending) = some front := by
  rw [dropSuffix?, if_pos (List.suffix_append front ending), List.length_append,
    Nat.add_sub_cancel, List.take_left' rfl]

/-- The part before an ending and the ending make up the text. -/
theorem eq_of_dropSuffix? {front ending : List Char} (h : dropSuffix? ending s = some front) :
    s = front ++ ending := by
  unfold dropSuffix? at h
  split at h
  · next hsuffix =>
    obtain ⟨t, rfl⟩ := hsuffix
    rw [List.length_append, Nat.add_sub_cancel, List.take_left' rfl] at h
    rw [Option.some.inj h]
  · cases h

/-! ## Replacing -/

theorem replaceChar_append (old : Char) (new s t : List Char) :
    replaceChar old new (s ++ t) = replaceChar old new s ++ replaceChar old new t :=
  List.flatMap_append

theorem replaceChar_of_not_mem {old : Char} {s : List Char} (h : old ∉ s) (new : List Char) :
    replaceChar old new s = s := by
  induction s with
  | nil => rfl
  | cons c s ih =>
    have hc : c ≠ old := fun heq => h (heq ▸ List.mem_cons_self)
    have rest := ih fun hmem => h (List.mem_cons_of_mem c hmem)
    rw [replaceChar] at rest
    rw [replaceChar, List.flatMap_cons, if_neg hc, rest]
    rfl

end SqlMapper.Text
