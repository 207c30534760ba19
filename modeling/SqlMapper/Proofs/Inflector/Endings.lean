import Mathlib.Data.List.Basic
import SqlMapper.Inflector.English
import SqlMapper.Proofs.Text.Split

/-!
# Plurals that lead back to their singular

The rules for plurals and those for singulars are not inverse to each other. Which nouns are recovered
from their plural depends on a few of their last letters.

* `staysSingular`: the endings of the nouns that the rules take for singulars.
* `leadsBack`: the endings of the nouns that the rules recover from their plurals.
* `Ensures`: what holds of all that a rule gives, with a lemma for each kind of rule.
* `singularNoun_eq_self_iff`, `singularNoun_pluralNoun_iff`: these are the nouns.
-/

namespace SqlMapper.English

/-! ## Specification -/

/-- Endings in `s` of nouns in the singular. -/
def singularEndings : List String := ["alias", "sis", "ss", "us"]

/-- Endings of nouns in the plural. -/
def pluralEndings : List String := ["s", "ta", "ia", "octopi", "viri"]

/-- Whether the singular of a noun is the noun itself, by the rules. -/
def staysSingular (noun : List Char) : Bool :=
  noun == ['s'] || hasEnding singularEndings noun || !hasEnding pluralEndings noun

/-- Endings of nouns that come back, though they look like those of `strayEndings`. -/
def keptEndings : List String :=
  ["crisis", "analysis", "basis", "diagnosis", "parenthesis", "prognosis", "synopsis", "thesis",
   "bus", "status", "octopus", "virus", "alias", "ss", "movie", "fve", "hive", "tive"]

/-- Endings of nouns whose plural is taken for that of another noun, or is none. -/
def strayEndings : List String :=
  pluralEndings ++
    ["ax", "movy", "hife", "tife", "lfe", "rfe", "u", "si", "xe", "che", "sse", "she", "ve",
     "aliase", "statuse", "buse", "matrice", "vertice", "indice", "crise", "teste",
     "analyse", "base", "diagnose", "parenthese", "prognose", "synopse", "these",
     "buffaloe", "tomatoe", "potatoe", "heroe"]

/-- Whether a noun ends in `ie` after a consonant. Its plural is taken for that of a noun in `y`. -/
def endsInConsonantIe (noun : List Char) : Bool :=
  ((Text.dropSuffix? "ie".toList noun).map endsInConsonant).getD false

/-- Whether the singular of its plural is the noun itself, by the rules. -/
def leadsBack (noun : List Char) : Bool :=
  hasEnding keptEndings noun || !(hasEnding strayEndings noun || endsInConsonantIe noun)

/-! ## What a rule gives -/

section Given

variable {endings : List String} {ending new : String} {fit : List Char → Bool} {n : Nat}
  {noun p : List Char}

theorem hasEnding_append {e : List Char} (h : hasEnding endings e = true) (stem : List Char) :
    hasEnding endings (stem ++ e) = true := by
  simp only [hasEnding, List.any_eq_true, decide_eq_true_eq] at h ⊢
  obtain ⟨e', he', hsuffix⟩ := h
  exact ⟨e', he', hsuffix.trans (List.suffix_append stem e)⟩

theorem exists_of_hasEnding (h : hasEnding endings noun = true) :
    ∃ e ∈ endings, ∃ stem, noun = stem ++ e.toList := by
  simp only [hasEnding, List.any_eq_true, decide_eq_true_eq] at h
  obtain ⟨e, he, stem, rfl⟩ := h
  exact ⟨e, he, stem, rfl⟩

theorem exists_of_replacing (h : replacing ending new fit noun = some p) :
    ∃ stem, fit stem = true ∧ noun = stem ++ ending.toList ∧ p = stem ++ new.toList := by
  unfold replacing at h
  split at h
  · next stem hstem =>
    split at h
    · next hfit => exact ⟨stem, hfit, Text.eq_of_dropSuffix? hstem, (Option.some.inj h).symm⟩
    · cases h
  · cases h

theorem exists_of_dropping (hn : ∀ e ∈ endings, n ≤ e.toList.length)
    (h : dropping n endings noun = some p) :
    ∃ e ∈ endings, ∃ stem, noun = stem ++ e.toList ∧
      p = stem ++ e.toList.take (e.toList.length - n) := by
  unfold dropping at h
  split at h
  · next hending =>
    obtain ⟨e, he, stem, rfl⟩ := exists_of_hasEnding hending
    refine ⟨e, he, stem, rfl, ?_⟩
    rw [← Option.some.inj h, List.length_append, Nat.add_sub_assoc (hn e he),
      List.take_length_add_append]
  · cases h

end Given

/-! ## Words from their end -/

/-- The word with the letters `r` from the last to the first. The rules look at words from there. -/
def backwards (r : List Char) : List Char := r.reverse

theorem exists_backwards (w : List Char) : ∃ r, w = backwards r := ⟨w.reverse, by simp [backwards]⟩

@[simp] theorem backwards_inj {r r' : List Char} : backwards r = backwards r' ↔ r = r' :=
  List.reverse_inj

@[simp] theorem isEmpty_backwards (r : List Char) : (backwards r).isEmpty = r.isEmpty := by
  simp [backwards]

@[simp] theorem suffix_backwards (e r : List Char) : e <:+ backwards r ↔ e.reverse <+: r := by
  rw [backwards, ← List.reverse_prefix, List.reverse_reverse]

@[simp] theorem dropSuffix?_backwards (e r : List Char) :
    Text.dropSuffix? e (backwards r) =
      if e.reverse <+: r then some (backwards (r.drop e.length)) else none := by
  simp only [Text.dropSuffix?, suffix_backwards]
  simp [backwards, List.reverse_drop]

theorem backwards_append (r e : List Char) : backwards r ++ e = backwards (e.reverse ++ r) := by
  simp [backwards]

theorem exists_of_hasEnding_backwards {endings : List String} {r : List Char}
    (h : hasEnding endings (backwards r) = true) : ∃ e ∈ endings, ∃ t, r = e.toList.reverse ++ t := by
  obtain ⟨e, he, stem, hstem⟩ := exists_of_hasEnding h
  obtain ⟨t, rfl⟩ := exists_backwards stem
  rw [backwards_append, backwards_inj] at hstem
  exact ⟨e, he, t, hstem⟩

theorem backwards_eq_singleton (c : Char) (r : List Char) :
    (backwards r == [c]) = (r == [c]) := by
  have : (backwards r == backwards [c]) = (r == [c]) := by
    by_cases h : r = [c] <;> simp [h]
  exact this

@[simp] theorem hasEnding_nil (s : List Char) : hasEnding [] s = false := rfl

@[simp] theorem hasEnding_cons (e : String) (es : List String) (r : List Char) :
    hasEnding (e :: es) (backwards r) =
      (decide (e.toList.reverse <+: r) || hasEnding es (backwards r)) := by
  simp [hasEnding]

theorem ne_cons_cons (a b : Char) (t : List Char) : t ≠ a :: b :: t := fun h => by
  have := congrArg List.length h
  simp only [List.length_cons] at this
  omega

/-! ## Trying a rule -/

section Rules

variable (rules : List Rule) (r : List Char)

@[simp] theorem firstApplying_nil : firstApplying [] r = none := rfl

@[simp] theorem firstApplying_replacing (ending new : String) (fit : List Char → Bool) :
    firstApplying (replacing ending new fit :: rules) (backwards r) =
      if ending.toList.reverse <+: r ∧ fit (backwards (r.drop ending.toList.length)) then
        some (backwards (new.toList.reverse ++ r.drop ending.toList.length))
      else firstApplying rules (backwards r) := by
  by_cases he : ending.toList.reverse <+: r <;>
    by_cases hf : fit (backwards (r.drop ending.toList.length)) = true <;>
      simp [firstApplying, replacing, he, hf]
  simp [backwards]

@[simp] theorem firstApplying_adding (added : String) (endings : List String) :
    firstApplying (adding added endings :: rules) (backwards r) =
      if hasEnding endings (backwards r) then some (backwards (added.toList.reverse ++ r))
      else firstApplying rules (backwards r) := by
  by_cases he : hasEnding endings (backwards r) = true <;> simp [firstApplying, adding, he]
  simp [backwards]

@[simp] theorem firstApplying_dropping (n : Nat) (endings : List String) :
    firstApplying (dropping n endings :: rules) (backwards r) =
      if hasEnding endings (backwards r) then some (backwards (r.drop n))
      else firstApplying rules (backwards r) := by
  by_cases he : hasEnding endings (backwards r) = true <;> simp [firstApplying, dropping, he]
  simp [backwards, List.reverse_drop]

@[simp] theorem firstApplying_sibilant (ending : String) :
    firstApplying (sibilant ending :: rules) (backwards r) =
      if ending.toList.reverse <+: r then some (backwards r)
      else firstApplying (replacing "es" "" (hasEnding [ending]) :: rules) (backwards r) := by
  by_cases he : ending.toList.reverse <+: r <;>
    simp [firstApplying, List.findSome?_cons, sibilant, he]

theorem anyStem_eq (stem : List Char) : anyStem stem = true := rfl

theorem pluralNoun_backwards :
    pluralNoun (backwards r) =
      (firstApplying pluralRules (backwards r)).getD (backwards ('s' :: r)) := by
  simp [pluralNoun, backwards]

end Rules

/-! ## What the rules give -/

/-- What a rule gives for a noun is in a relation with the noun. -/
def Ensures (P : List Char → List Char → Prop) (rule : Rule) : Prop :=
  ∀ noun p, rule noun = some p → P noun p

section Ensuring

variable {P : List Char → List Char → Prop} {endings : List String} {ending new added : String}

theorem ensures_firstApplying {rules : List Rule} (h : ∀ rule ∈ rules, Ensures P rule) :
    Ensures P (firstApplying rules) := by
  intro noun p hp
  obtain ⟨rule, hmem, hrule⟩ := List.exists_of_findSome?_eq_some hp
  exact h rule hmem noun p hrule

theorem ensures_replacing {fit : List Char → Bool}
    (h : ∀ t, fit (backwards t) = true →
      P (backwards (ending.toList.reverse ++ t)) (backwards (new.toList.reverse ++ t))) :
    Ensures P (replacing ending new fit) := by
  intro noun p hp
  obtain ⟨stem, hfit, rfl, rfl⟩ := exists_of_replacing hp
  obtain ⟨t, rfl⟩ := exists_backwards stem
  rw [backwards_append, backwards_append]
  exact h t hfit

/-- The fit stems are those with one of some endings. -/
theorem ensures_replacing_listed
    (h : ∀ e ∈ endings, ∀ t, P (backwards (ending.toList.reverse ++ (e.toList.reverse ++ t)))
      (backwards (new.toList.reverse ++ (e.toList.reverse ++ t)))) :
    Ensures P (replacing ending new (hasEnding endings)) := by
  refine ensures_replacing fun t hfit => ?_
  obtain ⟨e, he, t, rfl⟩ := exists_of_hasEnding_backwards hfit
  exact h e he t

theorem ensures_adding
    (h : ∀ e ∈ endings, ∀ t, P (backwards (e.toList.reverse ++ t))
      (backwards (added.toList.reverse ++ (e.toList.reverse ++ t)))) :
    Ensures P (adding added endings) := by
  intro noun p hp
  obtain ⟨r, rfl⟩ := exists_backwards noun
  unfold adding at hp
  split at hp
  · next hending =>
    obtain ⟨e, he, t, rfl⟩ := exists_of_hasEnding_backwards hending
    rw [← Option.some.inj hp, backwards_append]
    exact h e he t
  · cases hp

end Ensuring

/-! ## Letters at the end -/

@[simp] theorem endsInConsonant_cons (c : Char) (r : List Char) :
    endsInConsonant (backwards (c :: r)) =
      (hasEnding ["qu"] (backwards (c :: r)) || (!isVowel c && c != 'y')) := by
  simp [endsInConsonant, backwards]

theorem ite_some_eq_none_iff {c : Prop} [Decidable c] (a : List Char) (o : Option (List Char)) :
    (if c then some a else o) = none ↔ ¬c ∧ o = none := by
  by_cases h : c <;> simp [h]

/-- The first of several rules decides. -/
theorem getD_ite_eq_iff {c : Prop} [Decidable c] (a : List Char) (o : Option (List Char))
    (w x : List Char) :
    (if c then some a else o).getD w = x ↔ c ∧ a = x ∨ ¬c ∧ o.getD w = x := by
  by_cases h : c <;> simp [h]

section Endings

-- Once the last letters of a noun are known, `simp` runs through the rules and the endings.
attribute [local simp] List.cons_prefix_cons ne_cons_cons backwards_eq_singleton anyStem_eq
  ite_some_eq_none_iff getD_ite_eq_iff singularNoun singularRules staysSingular singularEndings
  pluralEndings leadsBack keptEndings strayEndings endsInConsonantIe

/-! ## Nouns that stay singular -/

/-- No noun in `es` is a singular. -/
theorem singularNoun_es_ne (t : List Char) :
    singularNoun (backwards ('s' :: 'e' :: t)) ≠ backwards ('s' :: 'e' :: t) := by
  simp

/-- The nouns that the rules take for singulars. -/
theorem singularNoun_eq_self_iff (noun : List Char) :
    singularNoun noun = noun ↔ staysSingular noun = true := by
  obtain ⟨r, rfl⟩ := exists_backwards noun
  rcases r with _ | ⟨c, t⟩
  · decide
  by_cases hs : c = 's'
  · subst hs
    rcases t with _ | ⟨d, t⟩
    · decide
    by_cases he : d = 'e'
    · subst he
      simp only [singularNoun_es_ne, false_iff]
      simp
    · simp [Ne.symm he]
      grind
  · simp [Ne.symm hs, hs]
    grind

/-! ## Nouns that come back -/

/-- A noun in `sis`. Its plural is that of a noun in `se`, unless it is one of the listed ones. -/
theorem singularNoun_ses_iff (t : List Char) :
    singularNoun (backwards ('s' :: 'e' :: 's' :: t)) = backwards ('s' :: 'i' :: 's' :: t) ↔
      leadsBack (backwards ('s' :: 'i' :: 's' :: t)) = true := by
  simp
  by_cases halias : "alia".toList.reverse <+: t
  · obtain ⟨t, rfl⟩ := halias
    simp
  by_cases hstatus : "statu".toList.reverse <+: t
  · obtain ⟨t, rfl⟩ := hstatus
    simp
  by_cases hbus : "bu".toList.reverse <+: t
  · obtain ⟨t, rfl⟩ := hbus
    simp
  simp at halias hstatus hbus
  simp [halias, hstatus, hbus]
  grind

/-- A plural leads back to its noun just if the noun is one of those that do. -/
def Recovers (noun plural : List Char) : Prop :=
  staysSingular noun = true → (singularNoun plural = noun ↔ leadsBack noun = true)

attribute [local simp] Recovers

theorem recovers_of_mem : ∀ rule ∈ pluralRules, Ensures Recovers rule := by
  simp only [pluralRules, List.forall_mem_cons, List.not_mem_nil, false_imp_iff, implies_true, and_true]
  and_intros
  -- matrix, vertex, index
  · exact ensures_replacing_listed (by simp)
  · exact ensures_replacing_listed (by simp)
  · exact ensures_replacing_listed (by simp)
  -- crisis
  · exact ensures_replacing fun t _ _ => singularNoun_ses_iff t
  -- box, branch, class, dish
  · exact ensures_adding (by simp)
  -- category
  · exact ensures_replacing fun t hfit => by simp [hfit]
  -- hive
  · exact ensures_adding (by simp)
  -- knife
  · refine ensures_replacing fun t hfit => ?_
    simp at hfit
    simp [hfit]
    grind
  -- shelf, scarf
  · exact ensures_replacing_listed (by simp)
  -- datum, medium
  · exact ensures_replacing_listed (by simp)
  -- buffalo, tomato, potato, hero
  · exact ensures_adding (by simp)
  -- bus, alias, status
  · exact ensures_adding (by simp)
  -- octopus, virus
  · exact ensures_replacing_listed (by simp)
  -- `axis` and `testis` are taken for plurals
  · exact ensures_replacing_listed (by simp)

/-- A noun whose plural is made by a rule. -/
theorem singularNoun_of_pluralRules {r p : List Char} (hs : staysSingular (backwards r) = true)
    (h : firstApplying pluralRules (backwards r) = some p) :
    singularNoun p = backwards r ↔ leadsBack (backwards r) = true :=
  ensures_firstApplying recovers_of_mem _ _ h hs

/-- A noun in `e` that takes an `s`. Some have a plural that is read as that of a shorter noun. -/
theorem singularNoun_es_iff (t : List Char)
    (hnone : firstApplying pluralRules (backwards ('e' :: t)) = none) :
    singularNoun (backwards ('s' :: 'e' :: t)) = backwards ('e' :: t) ↔
      leadsBack (backwards ('e' :: t)) = true := by
  simp [pluralRules] at hnone
  rcases t with _ | ⟨d, t⟩
  · decide
  -- the letters before the `e` that a rule for singulars asks for
  by_cases hx : d = 'x'
  · subst hx
    simp
  by_cases hh : d = 'h'
  · subst hh
    simp
  by_cases hs : d = 's'
  · subst hs
    simp
    grind
  by_cases hv : d = 'v'
  · subst hv
    -- only after an `f` is `ves` no plural of `f` or `fe`
    by_cases hf : ['f'] <+: t
    · obtain ⟨t, rfl⟩ := hf
      simp
    · simp [hf]
  by_cases hi : d = 'i'
  · subst hi
    simp
    grind
  by_cases hc : d = 'c'
  · subst hc
    rcases t with _ | ⟨c, t⟩
    · simp
    · simp
      grind
  by_cases ho : d = 'o'
  · subst ho
    by_cases hshoe : ['h', 's'] <+: t
    · obtain ⟨t, rfl⟩ := hshoe
      simp
    · simp [hshoe]
  by_cases hf : d = 'f'
  · subst hf
    simp at hnone
    obtain ⟨t, rfl⟩ := hnone
    simp
  simp [Ne.symm hx, Ne.symm hh, Ne.symm hs, Ne.symm hv, Ne.symm hi, Ne.symm hc, Ne.symm ho,
    Ne.symm hf]
  grind

/-- A noun that takes an `s`. -/
theorem singularNoun_s_iff {r : List Char} (hne : r ≠ []) (hs : staysSingular (backwards r) = true)
    (hnone : firstApplying pluralRules (backwards r) = none) :
    singularNoun (backwards ('s' :: r)) = backwards r ↔ leadsBack (backwards r) = true := by
  rcases r with _ | ⟨c, t⟩
  · exact absurd rfl hne
  by_cases he : c = 'e'
  · subst he
    exact singularNoun_es_iff t hnone
  simp [pluralRules] at hnone
  simp at hs
  by_cases hcs : c = 's'
  · subst hcs
    simp at hs hnone
    -- the rules for plurals take all singulars in `s` but those in `us`
    rcases hs with rfl | halias | hsis | hss | hus
    · simp
    · simp [halias] at hnone
    · simp [hsis] at hnone
    · simp [hss] at hnone
    · obtain ⟨t, rfl⟩ := hus
      simp at hnone ⊢
      exact ⟨hnone.1.1, hnone.1.2, hnone.2.1, hnone.2.2⟩
  by_cases ha : c = 'a'
  · subst ha
    rcases t with _ | ⟨d, t⟩
    · simp
    · simp at hs
      simp [hs]
  by_cases hi : c = 'i'
  · subst hi
    simp at hs
    simp [hs]
  by_cases hu : c = 'u'
  · subst hu
    simp
  by_cases hx : c = 'x'
  · subst hx
    simp at hnone
  by_cases hy : c = 'y'
  · subst hy
    -- `movy` is an ending that strays, but its plural is made by a rule
    by_cases hmov : ['v', 'o', 'm'] <+: t
    · obtain ⟨t, rfl⟩ := hmov
      simp [isVowel] at hnone
    · simp [hmov]
  simp [Ne.symm he, Ne.symm hcs, Ne.symm ha, Ne.symm hi, Ne.symm hu, Ne.symm hx, Ne.symm hy]

/-- Of the nouns in the singular, those that the rules recover from their plurals. -/
theorem singularNoun_pluralNoun_iff {noun : List Char} (hne : noun ≠ [])
    (hs : staysSingular noun = true) :
    singularNoun (pluralNoun noun) = noun ↔ leadsBack noun = true := by
  obtain ⟨r, rfl⟩ := exists_backwards noun
  rw [pluralNoun_backwards]
  cases h : firstApplying pluralRules (backwards r) with
  | none => exact singularNoun_s_iff (by rintro rfl; exact hne rfl) hs h
  | some p => exact singularNoun_of_pluralRules hs h

/-- Only singulars come back. -/
theorem staysSingular_of_leadsBack {noun : List Char} (h : leadsBack noun = true) :
    staysSingular noun = true := by
  obtain ⟨r, rfl⟩ := exists_backwards noun
  rcases r with _ | ⟨c, t⟩
  · decide
  by_cases hs : c = 's'
  · subst hs
    rcases t with _ | ⟨d, _ | ⟨b, t⟩⟩
    · simp
    all_goals
      simp at h ⊢
      grind
  · simp [Ne.symm hs, hs] at h ⊢
    grind

end Endings

end SqlMapper.English
