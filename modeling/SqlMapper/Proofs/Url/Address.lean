import SqlMapper.Proofs.Text.Split
import SqlMapper.Proofs.Url.Percent
import SqlMapper.Url.Host

/-!
# Addresses read back

The text of an address of eight groups is read back as these groups, wherever the longest run of zeros
stands that is left out of it.

* `InRange`: eight groups of 16 bits, which is what `read?` yields.
* `splitAtGap?_groupsText`: a gap is found between groups, and only where there is one.
* `longestZeros_spec`: the run of zeros that is left out.
* `read?_text`: reading what was written.
-/

namespace SqlMapper.Address

open Percent (Free)

/-- Eight groups of 16 bits. -/
structure InRange (groups : List Nat) : Prop where
  length : groups.length = 8
  lt : ∀ g ∈ groups, g < 65536

/-! ## Groups that are read -/

section Range

variable {s : List Char} {n : Nat} {groups : List Nat}

theorem hexValue?_lt {c : Char} {d : Nat} (h : Bytes.hexValue? c = some d) : d < 16 := by
  have le_iff : ∀ a b : Char, a ≤ b ↔ a.toNat ≤ b.toNat := fun a b => UInt32.le_iff_toNat_le
  simp only [Bytes.hexValue?, Bool.and_eq_true, decide_eq_true_eq, le_iff] at h
  have nine : '9'.toNat = 57 := rfl
  have f : 'f'.toNat = 102 := rfl
  have F : 'F'.toNat = 70 := rfl
  split at h
  · obtain rfl := Option.some.inj h
    omega
  · split at h
    · obtain rfl := Option.some.inj h
      omega
    · split at h
      · obtain rfl := Option.some.inj h
        omega
      · cases h

/-- One more digit. -/
def digitStep (n? : Option Nat) (c : Char) : Option Nat := do
  return (← n?) * 16 + (← Bytes.hexValue? c)

theorem readHex?_eq (hne : s ≠ []) : readHex? s = s.foldl digitStep (some 0) := by
  rw [readHex?, if_neg (by simpa using hne)]
  rfl

theorem lt_of_digits {a : Nat} (h : s.foldl digitStep (some a) = some n) :
    n < (a + 1) * Nat.pow 16 s.length := by
  induction s generalizing a with
  | nil =>
    obtain rfl := Option.some.inj h
    simp
  | cons c s ih =>
    cases hc : Bytes.hexValue? c with
    | none =>
      have stuck : s.foldl digitStep none = none := by
        clear h ih
        induction s with
        | nil => rfl
        | cons c s ih => exact ih
      rw [List.foldl_cons, digitStep, hc] at h
      exact absurd (stuck.symm.trans h) (by simp)
    | some d =>
      have hd := hexValue?_lt hc
      rw [List.foldl_cons, digitStep, hc] at h
      calc n < (a * 16 + d + 1) * 16 ^ s.length := ih h
        _ ≤ ((a + 1) * 16) * 16 ^ s.length := Nat.mul_le_mul_right _ (by omega)
        _ = (a + 1) * 16 ^ (c :: s).length := by rw [List.length_cons, Nat.pow_succ, Nat.mul_assoc,
            Nat.mul_comm 16]

theorem readGroup?_lt (h : readGroup? s = some n) : n < 65536 := by
  unfold readGroup? at h
  split at h
  case isFalse => cases h
  case isTrue short =>
    have hne : s ≠ [] := by
      rintro rfl
      cases h
    rw [readHex?_eq hne] at h
    calc n < (0 + 1) * 16 ^ s.length := lt_of_digits h
      _ ≤ (0 + 1) * 16 ^ 4 := Nat.mul_le_mul_left _ (Nat.pow_le_pow_right (by decide) short)

theorem readOctet?_lt (h : readOctet? s = some n) : n < 256 := by
  unfold readOctet? at h
  split at h
  · cases h
  · simpa using (Option.filter_eq_some_iff.mp h).2

theorem readShort?_lt (h : readShort? s = some groups) : ∀ g ∈ groups, g < 65536 := by
  unfold readShort? at h
  split at h
  case h_2 => cases h
  case h_1 a b c d octets =>
    have octet : ∀ x, some x ∈ (Text.splitOn '.' s).map readOctet? → x < 256 := by
      intro x hx
      obtain ⟨part, -, hpart⟩ := List.mem_map.mp hx
      exact readOctet?_lt hpart
    simp only [octets, List.mem_cons, Option.some.injEq, List.not_mem_nil, or_false] at octet
    obtain rfl := Option.some.inj h
    have ha := octet a (by simp)
    have hb := octet b (by simp)
    have hc := octet c (by simp)
    have hd := octet d (by simp)
    intro g hg
    simp only [List.mem_cons, List.not_mem_nil, or_false] at hg
    omega

theorem readGroups?_lt {parts : List (List Char)} (h : readGroups? parts = some groups) :
    ∀ g ∈ groups, g < 65536 := by
  induction parts generalizing groups with
  | nil =>
    obtain rfl := Option.some.inj h
    exact List.forall_mem_nil _
  | cons part parts ih =>
    cases parts with
    | nil =>
      rw [readGroups?] at h
      split at h
      · exact readShort?_lt h
      · obtain ⟨n, hn, rfl⟩ := Option.map_eq_some_iff.mp h
        exact List.forall_mem_singleton.mpr (readGroup?_lt hn)
    | cons next rest =>
      obtain ⟨n, hn, h⟩ := Option.bind_eq_some_iff.mp h
      obtain ⟨others, hothers, h⟩ := Option.bind_eq_some_iff.mp h
      obtain rfl := Option.some.inj h
      exact List.forall_mem_cons.mpr ⟨readGroup?_lt hn, ih hothers⟩

theorem readSide?_lt (h : readSide? s = some groups) : ∀ g ∈ groups, g < 65536 := by
  unfold readSide? at h
  split at h
  · obtain rfl := Option.some.inj h
    exact List.forall_mem_nil _
  · exact readGroups?_lt h

/-- What is read is an address. -/
theorem inRange_of_read? (h : read? s = some groups) : InRange groups := by
  unfold read? at h
  split at h
  case h_1 =>
    obtain ⟨hside, hlength⟩ := Option.filter_eq_some_iff.mp h
    exact ⟨by simpa using hlength, readSide?_lt hside⟩
  case h_2 before after _ =>
    split at h
    · cases h
    obtain ⟨left, hleft, h⟩ := Option.bind_eq_some_iff.mp h
    obtain ⟨right, hright, h⟩ := Option.bind_eq_some_iff.mp h
    split at h
    case isFalse => cases h
    case isTrue fits =>
      obtain rfl := Option.some.inj h
      refine ⟨?_, ?_⟩
      · simp only [List.length_append, List.length_replicate]
        omega
      · simp only [List.forall_mem_append]
        refine ⟨⟨readSide?_lt hleft, ?_⟩, readSide?_lt hright⟩
        intro g hg
        rw [(List.mem_replicate.mp hg).2]
        decide

end Range

/-! ## Groups that are written -/

section Written

variable {g : Nat} {groups : List Nat} {c : Char}

/-- The digits of a number are digits of its base. -/
theorem mem_toDigits {b : Nat} (hb : 1 < b) (h : c ∈ Nat.toDigits b g) : ∃ m < b, c = Nat.digitChar m := by
  induction g using Nat.base_induction b hb with
  | single m hm =>
    rw [Nat.toDigits_of_lt_base hm] at h
    exact ⟨m, hm, List.mem_singleton.mp h⟩
  | digit m k hk hm ih =>
    rw [← Nat.toDigits_append_toDigits hb hm hk, Nat.toDigits_of_lt_base hk] at h
    rcases List.mem_append.mp h with h | h
    · exact ih h
    · exact ⟨k, hk, List.mem_singleton.mp h⟩

theorem hexValue?_digitChar : ∀ m < 16, Bytes.hexValue? (Nat.digitChar m) = some m := by
  decide

theorem foldl_toDigits (g : Nat) : (Nat.toDigits 16 g).foldl digitStep (some 0) = some g := by
  induction g using Nat.base_induction 16 (by decide) with
  | single m hm =>
    rw [Nat.toDigits_of_lt_base hm, List.foldl_cons, digitStep, hexValue?_digitChar m hm]
    show some (0 * 16 + m) = some m
    rw [Nat.zero_mul, Nat.zero_add]
  | digit m k hk hm ih =>
    rw [← Nat.toDigits_append_toDigits (by decide) hm hk, Nat.toDigits_of_lt_base hk,
      List.foldl_append, ih, List.foldl_cons, digitStep, hexValue?_digitChar k hk]
    show some (m * 16 + k) = some (16 * m + k)
    rw [Nat.mul_comm]

theorem readGroup?_toDigits (h : g < 65536) : readGroup? (Nat.toDigits 16 g) = some g := by
  have short : (Nat.toDigits 16 g).length ≤ 4 := (Nat.length_toDigits_le_iff (by decide) (by decide)).mpr h
  rw [readGroup?, if_pos short, readHex?_eq Nat.toDigits_ne_nil, foldl_toDigits]

theorem not_mem_toDigits (hc : ∀ m < 16, c ≠ Nat.digitChar m) : c ∉ Nat.toDigits 16 g := by
  intro hmem
  obtain ⟨m, hm, rfl⟩ := mem_toDigits (by decide) hmem
  exact hc m hm rfl

theorem readGroups?_map_toDigits (h : ∀ g ∈ groups, g < 65536) :
    readGroups? (groups.map (Nat.toDigits 16)) = some groups := by
  induction groups with
  | nil => rfl
  | cons g groups ih =>
    obtain ⟨hg, hgroups⟩ := List.forall_mem_cons.mp h
    have first := readGroup?_toDigits hg
    cases groups with
    | nil =>
      have noDot : '.' ∉ Nat.toDigits 16 g := not_mem_toDigits (by decide)
      rw [List.map_singleton, readGroups?, if_neg noDot, first]
      rfl
    | cons next groups =>
      have rest := ih hgroups
      rw [List.map_cons] at rest
      rw [List.map_cons, List.map_cons, readGroups?, first, rest]
      rfl

theorem groupsText_cons_cons (g next : Nat) (groups : List Nat) :
    groupsText (g :: next :: groups) = Nat.toDigits 16 g ++ ':' :: groupsText (next :: groups) := by
  rw [groupsText, List.map_cons, List.map_cons, Text.joinWith, List.append_assoc]
  rfl

/-- Groups begin with a digit. -/
theorem exists_groupsText_cons (g : Nat) (groups : List Nat) :
    ∃ c rest, groupsText (g :: groups) = c :: rest ∧ c ≠ ':' := by
  obtain ⟨c, rest, hdigits⟩ := List.exists_cons_of_ne_nil (Nat.toDigits_ne_nil (n := g) (b := 16))
  have hc : c ≠ ':' := by
    have noColon : ':' ∉ Nat.toDigits 16 g := not_mem_toDigits (by decide)
    rintro rfl
    exact noColon (hdigits ▸ List.mem_cons_self)
  cases groups with
  | nil => exact ⟨c, rest, hdigits, hc⟩
  | cons next groups =>
    rw [groupsText_cons_cons, hdigits]
    exact ⟨c, _, rfl, hc⟩

/-- Groups on one side of a gap are read back. -/
theorem readSide?_groupsText (h : ∀ g ∈ groups, g < 65536) :
    readSide? (groupsText groups) = some groups := by
  cases groups with
  | nil => rfl
  | cons g groups =>
    obtain ⟨c, rest, htext, -⟩ := exists_groupsText_cons g groups
    have noColon : ∀ part ∈ (g :: groups).map (Nat.toDigits 16), ':' ∉ part := by
      intro part hpart
      obtain ⟨g', -, rfl⟩ := List.mem_map.mp hpart
      exact not_mem_toDigits (by decide)
    have hne : (g :: groups).map (Nat.toDigits 16) ≠ [] := List.cons_ne_nil _ _
    rw [readSide?, if_neg (by simp [htext]), groupsText, Text.splitOn_joinWith hne noColon,
      readGroups?_map_toDigits h]

/-- The characters of groups. -/
theorem mem_groupsText (h : c ∈ groupsText groups) : c = ':' ∨ ∃ m < 16, c = Nat.digitChar m := by
  rcases Text.mem_joinWith h with h | ⟨part, hpart, hc⟩
  · exact .inl h
  · obtain ⟨g, -, rfl⟩ := List.mem_map.mp hpart
    exact .inr (mem_toDigits (by decide) hc)

theorem dot_not_mem_groupsText : '.' ∉ groupsText groups := by
  intro h
  rcases mem_groupsText h with h | ⟨m, hm, h⟩
  · exact absurd h (by decide)
  · have hne : ∀ m < 16, '.' ≠ Nat.digitChar m := by decide
    exact hne m hm h

/-! ## The gap -/

theorem splitAtGap?_append {w : List Char} (h : ':' ∉ w) (rest : List Char) :
    splitAtGap? (w ++ rest) = (splitAtGap? rest).map fun p => (w ++ p.1, p.2) := by
  induction w with
  | nil => exact Option.map_id'.symm
  | cons c w ih =>
    have hc : c ≠ ':' := fun heq => h (heq ▸ List.mem_cons_self)
    have tail := ih fun hmem => h (List.mem_cons_of_mem c hmem)
    rw [List.cons_append, splitAtGap?, tail, Option.map_map]
    · rfl
    · intro rest' heq
      exact absurd heq hc

/-- Groups make no gap of their own. -/
theorem splitAtGap?_groupsText (groups : List Nat) (rest : List Char) :
    splitAtGap? (groupsText groups ++ rest) =
      (splitAtGap? rest).map fun p => (groupsText groups ++ p.1, p.2) := by
  induction groups with
  | nil => exact Option.map_id'.symm
  | cons g groups ih =>
    have noColon : ':' ∉ Nat.toDigits 16 g := not_mem_toDigits (by decide)
    cases groups with
    | nil => exact splitAtGap?_append noColon rest
    | cons next groups =>
      obtain ⟨c, tail, htext, hc⟩ := exists_groupsText_cons next groups
      have afterColon : splitAtGap? (':' :: (groupsText (next :: groups) ++ rest)) =
          (splitAtGap? (groupsText (next :: groups) ++ rest)).map fun p => (':' :: p.1, p.2) := by
        rw [htext, List.cons_append, splitAtGap?]
        intro rest' _ heq
        exact hc (List.cons.inj heq).1
      rw [groupsText_cons_cons, List.append_assoc, List.cons_append, splitAtGap?_append noColon,
        afterColon, ih, Option.map_map, Option.map_map]
      congr 1
      funext p
      simp

/-- The run of zeros that is left out. -/
theorem longestZeros_spec {start place length : Nat}
    (h : longestZeros start groups = (place, length)) (hpos : 0 < length) :
    ∃ before after, groups = before ++ List.replicate length 0 ++ after ∧
      place = start + before.length := by
  induction groups generalizing start with
  | nil =>
    obtain ⟨-, rfl⟩ := Prod.mk.inj h
    exact absurd hpos (Nat.lt_irrefl 0)
  | cons g groups ih =>
    rw [longestZeros] at h
    split at h
    · obtain ⟨before, after, rfl, rfl⟩ := ih h
      exact ⟨g :: before, after, rfl, by rw [List.length_cons]; omega⟩
    · obtain ⟨rfl, rfl⟩ := Prod.mk.inj h
      refine ⟨[], (g :: groups).dropWhile (· = 0), ?_, rfl⟩
      have zeros : (g :: groups).takeWhile (· = 0) = List.replicate (leadingZeros (g :: groups)) 0 := by
        refine List.eq_replicate_iff.mpr ⟨rfl, ?_⟩
        intro x hx
        have all := List.all_eq_true.mp List.all_takeWhile x hx
        simpa using all
      rw [List.nil_append, ← zeros, List.takeWhile_append_dropWhile]

/-! ## The whole text -/

/-- **An address is read back as it was written.** -/
theorem read?_text (h : InRange groups) : read? (text groups) = some groups := by
  obtain ⟨hlength, hlt⟩ := h
  unfold text
  cases hzeros : longestZeros 0 groups with
  | mk place length =>
    by_cases hshort : length < 2
    · have noGap := splitAtGap?_groupsText groups []
      rw [List.append_nil] at noGap
      simp only [if_pos hshort]
      rw [read?, noGap]
      show (readSide? (groupsText groups)).filter _ = _
      rw [readSide?_groupsText hlt]
      simp [hlength]
    · obtain ⟨before, after, rfl, rfl⟩ := longestZeros_spec hzeros (by omega)
      simp only [List.forall_mem_append] at hlt
      have left : (before ++ List.replicate length 0 ++ after).take (0 + before.length) = before := by
        simp
      have right : (before ++ List.replicate length 0 ++ after).drop (0 + before.length + length) =
          after := by
        simp
      simp only [List.length_append, List.length_replicate] at hlength
      have fits : before.length + after.length ≤ 7 := by omega
      have gap : 8 - before.length - after.length = length := by omega
      have found := splitAtGap?_groupsText before (':' :: ':' :: groupsText after)
      simp only [if_neg hshort, left, right]
      rw [read?, List.append_assoc, List.cons_append, List.singleton_append, found]
      show (do
        if '.' ∈ groupsText before ++ [] then none
        let before ← readSide? (groupsText before ++ [])
        let after ← readSide? (groupsText after)
        if before.length + after.length ≤ 7 then
          some (before ++ List.replicate (8 - before.length - after.length) 0 ++ after)
        else none) = _
      rw [List.append_nil, if_neg dot_not_mem_groupsText, readSide?_groupsText hlt.1.1,
        readSide?_groupsText hlt.2]
      show (if before.length + after.length ≤ 7 then
          some (before ++ List.replicate (8 - before.length - after.length) 0 ++ after)
        else none) = _
      rw [if_pos fits, gap]

/-- The characters of an address. -/
theorem mem_text (h : c ∈ text groups) : c = ':' ∨ ∃ m < 16, c = Nat.digitChar m := by
  unfold text at h
  split at h
  split at h
  · exact mem_groupsText h
  · rcases List.mem_append.mp h with h | h
    · rcases List.mem_append.mp h with h | h
      · exact mem_groupsText h
      · exact .inl (by simpa using h)
    · exact mem_groupsText h

end Written

end SqlMapper.Address
