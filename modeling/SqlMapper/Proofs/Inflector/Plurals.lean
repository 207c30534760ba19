import SqlMapper.Proofs.Inflector.Endings

/-!
# Nouns in the plural

A noun is taken for a plural if it is the plural of its own singular. That is not so of every noun in the
plural: some only got an `s` where the rules have another ending. Nor is it so of every plural that the
rules make.

* `staysPlural`: the endings of the nouns that are taken for plurals.
* `pluralSettles`: the endings of the nouns whose plural is taken for one.
* `pluralNoun_singularNoun_iff`, `staysPlural_pluralNoun_iff`: these are the nouns.
-/

namespace SqlMapper.English

/-! ## Specification -/

/-- Endings of nouns with an `s` in the place of the ending that the rules have. -/
def misformedEndings : List String :=
  ["xs", "chs", "shs", "lfs", "rfs", "tums", "iums", "buffalos", "tomatos", "potatos", "heros",
   "matrixes", "vertexes", "indexes"]

/-- Whether a noun ends in `ys` after a consonant. The rules have `ies` there. -/
def endsInConsonantYs (noun : List Char) : Bool :=
  ((Text.dropSuffix? "ys".toList noun).map endsInConsonant).getD false

/-- Whether a noun has an `s` in the place of the ending that the rules have. -/
def misformed (noun : List Char) : Bool :=
  hasEnding misformedEndings noun || (hasEnding ["fes"] noun && !hasEnding ["ffes"] noun) ||
    endsInConsonantYs noun

/-- Whether a noun is the plural of its singular, by the rules. -/
def staysPlural (noun : List Char) : Bool := !staysSingular noun && !misformed noun

/-- Endings in `us` of nouns with a plural of their own. -/
def pluralledEndings : List String := ["bus", "status", "octopus", "virus"]

/-- Endings of nouns in the singular whose plural is taken for a singular, or for a misformed plural. -/
def unsettledEndings : List String := ["u", "us", "si", "matrixe", "vertexe", "indexe"]

/-- Whether the plural of a noun is taken for a plural, by the rules. -/
def pluralSettles (noun : List Char) : Bool :=
  if staysSingular noun then
    hasEnding pluralledEndings noun || !(noun == ['s'] || hasEnding unsettledEndings noun)
  else !misformed noun

section Endings

attribute [local simp] List.cons_prefix_cons ne_cons_cons backwards_eq_singleton anyStem_eq
  ite_some_eq_none_iff getD_ite_eq_iff singularNoun singularRules staysSingular singularEndings
  pluralEndings misformed misformedEndings endsInConsonantYs staysPlural pluralledEndings unsettledEndings

/-! ## Nouns that stay plural -/

/-- A noun in `s` but not in `es`. The noun before the `s` has a plural by a rule, or takes the `s`. -/
theorem pluralNoun_singularNoun_s_iff {d : Char} {t : List Char} (he : d ≠ 'e')
    (hs : staysSingular (backwards ('s' :: d :: t)) = false) :
    pluralNoun (singularNoun (backwards ('s' :: d :: t))) = backwards ('s' :: d :: t) ↔
      misformed (backwards ('s' :: d :: t)) = false := by
  have hsingular : singularNoun (backwards ('s' :: d :: t)) = backwards (d :: t) := by
    simp [Ne.symm he] at hs ⊢
    simp [hs]
    exact ⟨hs.1, hs.2.1⟩
  rw [hsingular]
  simp [pluralNoun_backwards, pluralRules, Ne.symm he] at hs ⊢
  obtain ⟨-, -, hss, -⟩ := hs
  by_cases hx : d = 'x'
  · subst hx
    simp
  by_cases hh : d = 'h'
  · subst hh
    simp
  by_cases hy : d = 'y'
  · subst hy
    simp
  by_cases hf : d = 'f'
  · subst hf
    simp
  by_cases hm : d = 'm'
  · subst hm
    rcases t with _ | ⟨b, t⟩
    · simp
    · simp
      grind
  by_cases ho : d = 'o'
  · subst ho
    simp
  simp [Ne.symm hx, Ne.symm hh, Ne.symm hy, Ne.symm hf, Ne.symm hm, Ne.symm ho, hss]

theorem pluralNoun_singularNoun_ses (t : List Char) :
    pluralNoun (singularNoun (backwards ('s' :: 'e' :: 's' :: t))) = backwards ('s' :: 'e' :: 's' :: t) := by
  by_cases halias : "alia".toList.reverse <+: t
  · obtain ⟨t, rfl⟩ := halias
    simp [pluralNoun_backwards, pluralRules]
  by_cases hstatus : "statu".toList.reverse <+: t
  · obtain ⟨t, rfl⟩ := hstatus
    simp [pluralNoun_backwards, pluralRules]
  by_cases hbus : "bu".toList.reverse <+: t
  · obtain ⟨t, rfl⟩ := hbus
    simp [pluralNoun_backwards, pluralRules]
  by_cases hclass : ['s'] <+: t
  · obtain ⟨t, rfl⟩ := hclass
    simp [pluralNoun_backwards, pluralRules]
  -- a noun in `sis` or in `se`, which have the same plural
  simp at halias hstatus hbus
  simp [halias, hstatus, hbus, hclass]
  split_ifs <;> simp [pluralNoun_backwards, pluralRules]

theorem pluralNoun_singularNoun_ves (t : List Char) :
    pluralNoun (singularNoun (backwards ('s' :: 'e' :: 'v' :: t))) = backwards ('s' :: 'e' :: 'v' :: t) := by
  by_cases hhive : ['i', 'h'] <+: t
  · obtain ⟨t, rfl⟩ := hhive
    simp [pluralNoun_backwards, pluralRules]
  by_cases htive : ['i', 't'] <+: t
  · obtain ⟨t, rfl⟩ := htive
    simp [pluralNoun_backwards, pluralRules]
  by_cases hl : ['l'] <+: t
  · obtain ⟨t, rfl⟩ := hl
    simp [pluralNoun_backwards, pluralRules]
  by_cases hr : ['r'] <+: t
  · obtain ⟨t, rfl⟩ := hr
    simp [pluralNoun_backwards, pluralRules]
  by_cases hf : ['f'] <+: t
  · obtain ⟨t, rfl⟩ := hf
    simp [pluralNoun_backwards, pluralRules]
  simp [pluralNoun_backwards, pluralRules, hhive, htive, hl, hr, hf]

theorem pluralNoun_singularNoun_ces (t : List Char) :
    pluralNoun (singularNoun (backwards ('s' :: 'e' :: 'c' :: t))) = backwards ('s' :: 'e' :: 'c' :: t) := by
  by_cases hmatrix : ['i', 'r', 't', 'a', 'm'] <+: t
  · obtain ⟨t, rfl⟩ := hmatrix
    simp [pluralNoun_backwards, pluralRules]
  by_cases hvertex : ['i', 't', 'r', 'e', 'v'] <+: t
  · obtain ⟨t, rfl⟩ := hvertex
    simp [pluralNoun_backwards, pluralRules]
  by_cases hindex : ['i', 'd', 'n', 'i'] <+: t
  · obtain ⟨t, rfl⟩ := hindex
    simp [pluralNoun_backwards, pluralRules]
  rcases t with _ | ⟨b, t⟩
  · simp [pluralNoun_backwards, pluralRules]
  · simp at hmatrix hvertex hindex ⊢
    rw [if_neg fun h => hmatrix h.1 h.2, if_neg fun h => hvertex h.1 h.2, if_neg fun h => hindex h.1 h.2]
    simp [pluralNoun_backwards, pluralRules]

/-- A noun in `xes`. Of these, only `matrix`, `vertex` and `index` have another plural. -/
theorem pluralNoun_singularNoun_xes_iff (t : List Char) :
    pluralNoun (singularNoun (backwards ('s' :: 'e' :: 'x' :: t))) = backwards ('s' :: 'e' :: 'x' :: t) ↔
      misformed (backwards ('s' :: 'e' :: 'x' :: t)) = false := by
  by_cases ha : ['a'] <+: t
  · obtain ⟨t, rfl⟩ := ha
    simp [pluralNoun_backwards, pluralRules]
  rcases t with _ | ⟨b, t⟩
  · simp [pluralNoun_backwards, pluralRules]
  · simp at ha
    simp [pluralNoun_backwards, pluralRules, ha]

/-- A noun in `es`. The letter before it tells which rules for singulars are asked. -/
theorem pluralNoun_singularNoun_es_iff (t : List Char) :
    pluralNoun (singularNoun (backwards ('s' :: 'e' :: t))) = backwards ('s' :: 'e' :: t) ↔
      misformed (backwards ('s' :: 'e' :: t)) = false := by
  rcases t with _ | ⟨d, t⟩
  · decide
  by_cases hx : d = 'x'
  · subst hx
    exact pluralNoun_singularNoun_xes_iff t
  by_cases hs : d = 's'
  · subst hs
    exact iff_of_true (pluralNoun_singularNoun_ses t) (by simp)
  by_cases hv : d = 'v'
  · subst hv
    exact iff_of_true (pluralNoun_singularNoun_ves t) (by simp)
  by_cases hc : d = 'c'
  · subst hc
    exact iff_of_true (pluralNoun_singularNoun_ces t) (by simp)
  by_cases hh : d = 'h'
  · subst hh
    by_cases hch : ['c'] <+: t
    · obtain ⟨t, rfl⟩ := hch
      simp [pluralNoun_backwards, pluralRules]
    by_cases hsh : ['s'] <+: t
    · obtain ⟨t, rfl⟩ := hsh
      simp [pluralNoun_backwards, pluralRules]
    simp [pluralNoun_backwards, pluralRules, hch, hsh]
  by_cases hi : d = 'i'
  · subst hi
    by_cases hmovie : ['v', 'o', 'm'] <+: t
    · obtain ⟨t, rfl⟩ := hmovie
      simp [pluralNoun_backwards, pluralRules]
    by_cases hconsonant : endsInConsonant (backwards t) = true
    · simp [pluralNoun_backwards, pluralRules, hmovie, hconsonant]
    · simp [pluralNoun_backwards, pluralRules, hmovie, hconsonant]
  by_cases ho : d = 'o'
  · subst ho
    by_cases hshoe : ['h', 's'] <+: t
    · obtain ⟨t, rfl⟩ := hshoe
      simp [pluralNoun_backwards, pluralRules]
    simp [hshoe]
    split_ifs with hhero <;> simp [pluralNoun_backwards, pluralRules, hhero]
  by_cases hf : d = 'f'
  · subst hf
    -- only after an `f` does a noun in `fe` take an `s`
    by_cases hff : ['f'] <+: t
    · simp [pluralNoun_backwards, pluralRules, hff]
    · simp [pluralNoun_backwards, pluralRules, hff]
  by_cases ht : d = 't'
  · subst ht
    by_cases htestis : ['s', 'e', 't'] <+: t
    · obtain ⟨t, rfl⟩ := htestis
      simp [pluralNoun_backwards, pluralRules]
    · simp [pluralNoun_backwards, pluralRules, htestis]
  simp [pluralNoun_backwards, pluralRules, Ne.symm hx, Ne.symm hs, Ne.symm hv, Ne.symm hc, Ne.symm hh,
    Ne.symm hi, Ne.symm ho, Ne.symm hf, Ne.symm ht]

/-- A noun that is no singular is the plural of one, unless it is misformed. -/
theorem pluralNoun_singularNoun_of_not_staysSingular {noun : List Char}
    (hs : staysSingular noun = false) :
    pluralNoun (singularNoun noun) = noun ↔ misformed noun = false := by
  obtain ⟨r, rfl⟩ := exists_backwards noun
  rcases r with _ | ⟨c, t⟩
  · exact absurd hs (by decide)
  by_cases hcs : c = 's'
  · subst hcs
    rcases t with _ | ⟨d, t⟩
    · exact absurd hs (by decide)
    by_cases he : d = 'e'
    · subst he
      exact pluralNoun_singularNoun_es_iff t
    · exact pluralNoun_singularNoun_s_iff he hs
  have hformed : misformed (backwards (c :: t)) = false := by simp [Ne.symm hcs]
  refine iff_of_true ?_ hformed
  simp [Ne.symm hcs, hcs] at hs
  by_cases ha : c = 'a'
  · subst ha
    simp at hs
    rcases Decidable.or_iff_not_imp_left.mpr hs with ⟨t, rfl⟩ | ⟨t, rfl⟩ <;>
      simp [pluralNoun_backwards, pluralRules]
  by_cases hi : c = 'i'
  · subst hi
    simp at hs
    rcases Decidable.or_iff_not_imp_left.mpr hs with ⟨t, rfl⟩ | ⟨t, rfl⟩ <;>
      simp [pluralNoun_backwards, pluralRules]
  simp [Ne.symm ha, Ne.symm hi] at hs

/-! ## Plurals that are taken for plurals -/

/-- The first rule that applies to a noun gives a plural that is taken for one. -/
def Settles (noun plural : List Char) : Prop :=
  firstApplying pluralRules noun = some plural → staysPlural plural = true ∧
    (hasEnding pluralledEndings noun || !(noun == ['s'] || hasEnding unsettledEndings noun)) = true

attribute [local simp] Settles

/-- Of the nouns in `x`, those with another plural come before. -/
theorem settles_x (t : List Char) : Settles (backwards ('x' :: t)) (backwards ('s' :: 'e' :: 'x' :: t)) := by
  intro hp
  rcases t with _ | ⟨b, t⟩
  · simp
  · simp [pluralRules, ite_eq_iff] at hp
    simp
    grind

theorem settles_of_mem : ∀ rule ∈ pluralRules, Ensures Settles rule := by
  simp only [pluralRules, List.forall_mem_cons, List.not_mem_nil, false_imp_iff, implies_true, and_true]
  and_intros
  -- matrix, vertex, index
  · exact ensures_replacing (by simp)
  · exact ensures_replacing (by simp)
  · exact ensures_replacing (by simp)
  -- crisis
  · exact ensures_replacing (by simp)
  -- box, branch, class, dish
  · refine ensures_adding (List.forall_mem_cons.mpr ⟨settles_x, ?_⟩)
    simp
  -- category
  · exact ensures_replacing (by simp)
  -- hive
  · exact ensures_adding (by simp)
  -- knife
  · exact ensures_replacing (by simp)
  -- shelf, scarf
  · exact ensures_replacing (by simp)
  -- datum, medium
  · exact ensures_replacing_listed (by simp)
  -- buffalo, tomato, potato, hero
  · exact ensures_adding (by simp)
  -- bus, alias, status
  · exact ensures_adding (by simp)
  -- octopus, virus
  · exact ensures_replacing_listed (by simp)
  -- axis, testis
  · exact ensures_replacing_listed (by simp)

/-- A plural that is made by a rule is taken for one. -/
theorem staysPlural_of_pluralRules {r p : List Char} (hs : staysSingular (backwards r) = true)
    (h : firstApplying pluralRules (backwards r) = some p) :
    staysPlural p = true ∧ pluralSettles (backwards r) = true := by
  rw [pluralSettles, if_pos hs]
  exact ensures_firstApplying settles_of_mem _ _ h h

theorem misformed_s {r : List Char} (h : firstApplying pluralRules (backwards r) = none) :
    misformed (backwards ('s' :: r)) = hasEnding ["matrixe", "vertexe", "indexe"] (backwards r) := by
  rcases r with _ | ⟨c, t⟩
  · decide
  simp [pluralRules] at h
  by_cases hx : c = 'x'
  · subst hx
    simp at h
  by_cases hh : c = 'h'
  · subst hh
    simp at h
    simp [h]
  by_cases hy : c = 'y'
  · subst hy
    simp at h
    simp [h]
  by_cases hf : c = 'f'
  · subst hf
    simp at h
    simp [h]
  by_cases hm : c = 'm'
  · subst hm
    rcases t with _ | ⟨b, t⟩
    · simp
    · simp at h
      simp
      grind
  by_cases ho : c = 'o'
  · subst ho
    simp at h
    simp [h]
  by_cases he : c = 'e'
  · subst he
    rcases t with _ | ⟨b, t⟩
    · simp
    · simp at h
      simp
      grind
  simp [Ne.symm hx, Ne.symm hh, Ne.symm hy, Ne.symm hf, Ne.symm hm, Ne.symm ho, Ne.symm he]

/-- A plural that is made by an `s` alone. -/
theorem staysPlural_s_iff {r : List Char} (hne : r ≠ []) (hs : staysSingular (backwards r) = true)
    (h : firstApplying pluralRules (backwards r) = none) :
    staysPlural (backwards ('s' :: r)) = true ↔ pluralSettles (backwards r) = true := by
  rw [pluralSettles, if_pos hs, staysPlural, misformed_s h]
  rcases r with _ | ⟨c, t⟩
  · exact absurd rfl hne
  by_cases hcs : c = 's'
  · subst hcs
    simp [pluralRules] at h
    simp at hs
    rcases hs with rfl | halias | hsis | hss | hus
    · simp [pluralledEndings, unsettledEndings]
    · simp [halias] at h
    · simp [hsis] at h
    · simp [hss] at h
    · obtain ⟨t, rfl⟩ := hus
      simp [pluralledEndings, unsettledEndings] at h ⊢
      exact ⟨h.1.1, h.1.2, h.2.1, h.2.2⟩
  by_cases ha : c = 'a'
  · subst ha
    rcases t with _ | ⟨d, t⟩
    · simp [pluralledEndings, unsettledEndings]
    · simp at hs
      simp [pluralledEndings, unsettledEndings, hs]
  simp [pluralledEndings, unsettledEndings, hcs, Ne.symm hcs, Ne.symm ha] at hs ⊢
  grind

/-- The plural of a misformed plural is taken for a singular. -/
theorem staysSingular_pluralNoun_of_misformed {noun : List Char} (hs : staysSingular noun = false)
    (hm : misformed noun = true) : staysSingular (pluralNoun noun) = true := by
  obtain ⟨r, rfl⟩ := exists_backwards noun
  rcases r with _ | ⟨c, t⟩
  · exact absurd hs (by decide)
  by_cases hcs : c = 's'
  · subst hcs
    have hnone : firstApplying pluralRules (backwards ('s' :: t)) = none := by
      simp [pluralRules]
      rcases t with _ | ⟨d, t⟩
      · simp
      -- `axis` and `testis` have a plural by a rule, but they are the plurals of `axi` and `testi`
      by_cases hi : d = 'i'
      · subst hi
        simp at hm
      · simp at hs
        simp [Ne.symm hi, hs]
        exact hs.1
    rw [pluralNoun_backwards, hnone]
    simp
  · simp [Ne.symm hcs] at hm

end Endings

/-- The nouns that are plurals of their singulars. -/
theorem pluralNoun_singularNoun_iff (noun : List Char) :
    singularNoun noun ≠ noun ∧ pluralNoun (singularNoun noun) = noun ↔ staysPlural noun = true := by
  rw [Ne, singularNoun_eq_self_iff]
  by_cases hs : staysSingular noun = true
  · simp [staysPlural, hs]
  · rw [Bool.not_eq_true] at hs
    rw [pluralNoun_singularNoun_of_not_staysSingular hs]
    simp [staysPlural, hs]

/-- The nouns whose plural is taken for a plural. -/
theorem staysPlural_pluralNoun_iff {noun : List Char} (hne : noun ≠ [])
    (hp : staysPlural noun = false) :
    staysPlural (pluralNoun noun) = true ↔ pluralSettles noun = true := by
  by_cases hs : staysSingular noun = true
  · obtain ⟨r, rfl⟩ := exists_backwards noun
    rw [pluralNoun_backwards]
    cases h : firstApplying pluralRules (backwards r) with
    | none => exact staysPlural_s_iff (by rintro rfl; exact hne rfl) hs h
    | some p =>
      obtain ⟨hplural, hsettles⟩ := staysPlural_of_pluralRules hs h
      exact iff_of_true hplural hsettles
  · rw [Bool.not_eq_true] at hs
    have hm : misformed noun = true := by simpa [staysPlural, hs] using hp
    have hsingular := staysSingular_pluralNoun_of_misformed hs hm
    simp [pluralSettles, staysPlural, hs, hm, hsingular]

/-- A noun in the plural keeps its form, or an `s` more makes it no plural. -/
theorem pluralNoun_of_not_staysSingular {noun : List Char} (hs : staysSingular noun = false) :
    pluralNoun (singularNoun noun) = noun ∨ singularNoun (pluralNoun noun) ≠ noun := by
  by_cases hm : misformed noun = true
  · refine .inr fun hback => ?_
    have hsingular := staysSingular_pluralNoun_of_misformed hs hm
    rw [(singularNoun_eq_self_iff _).mpr hsingular] at hback
    rw [hback, hs] at hsingular
    cases hsingular
  · exact .inl ((pluralNoun_singularNoun_of_not_staysSingular hs).mpr (Bool.eq_false_iff.mpr hm))

end SqlMapper.English
