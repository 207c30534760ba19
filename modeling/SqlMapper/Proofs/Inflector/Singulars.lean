import SqlMapper.Proofs.Inflector.Endings

/-!
# Singulars of singulars

The singular of a noun is a singular, but for two kinds of nouns: some plurals get a singular in `is` that
looks like a plural, and where an `s` was put after a plural, only the `s` is taken off.

* `singularSettles`: the endings of the nouns whose singular is taken for one.
* `Singularized`: how the singular of a noun is found; `singularized_of_mem`: every rule finds it so.
* `staysSingular_singularNoun_iff`: these are the nouns.
-/

namespace SqlMapper.English

/-! ## Specification -/

/-- Endings of nouns whose singular has another singular. -/
def loosenedEndings : List String := ["axes", "testes", "tas", "ias", "octopis", "viris"]

/-- Whether the singular of a noun is taken for a singular, by the rules. -/
def singularSettles (noun : List Char) : Bool :=
  hasEnding ["alias"] noun || !hasEnding loosenedEndings noun

/-- Endings of singulars that a rule has made. -/
def madeEndings : List String := ["x", "ch", "sh", "o", "y", "f", "fe", "um"]

/-! ## How a singular is found -/

/-- How the singular of a noun is found: the noun stays as it is or loses an `s`, or a rule ends it. Only
    the rule for `axes` and `testes` gives it an ending of plurals. -/
inductive Singularized (noun singular : List Char) : Prop where
  | same (h : singular = noun)
  | shortened (h : noun = singular ++ ['s'])
  | ended (h : hasEnding singularEndings singular = true)
  | made (h : hasEnding madeEndings singular = true)
  | loosened (h : hasEnding ["axes", "testes"] noun = true) (hs : hasEnding ["is"] singular = true)

/-! ## Kinds of rules -/

section Kinds

variable {endings : List String} {ending new : String} {fit : List Char → Bool}

/-- The noun has the ending already, or has it without its `es`. -/
theorem singularized_sibilant (h : hasEnding singularEndings ending.toList = true) :
    Ensures Singularized (sibilant ending) := by
  intro noun p hp
  unfold sibilant at hp
  split at hp
  · exact .same (Option.some.inj hp).symm
  · obtain ⟨stem, hfit, -, rfl⟩ := exists_of_replacing hp
    obtain ⟨e, he, stem, rfl⟩ := exists_of_hasEnding hfit
    rw [List.mem_singleton.mp he]
    exact .ended (by simpa using hasEnding_append h stem)

theorem singularized_replacing_ended (h : hasEnding singularEndings new.toList = true) :
    Ensures Singularized (replacing ending new fit) := by
  intro noun p hp
  obtain ⟨stem, -, -, rfl⟩ := exists_of_replacing hp
  exact .ended (hasEnding_append h stem)

theorem singularized_replacing_made (h : hasEnding madeEndings new.toList = true) :
    Ensures Singularized (replacing ending new fit) := by
  intro noun p hp
  obtain ⟨stem, -, -, rfl⟩ := exists_of_replacing hp
  exact .made (hasEnding_append h stem)

theorem singularized_replacing_s : Ensures Singularized (replacing "s" "" fit) := by
  intro noun p hp
  obtain ⟨stem, -, rfl, rfl⟩ := exists_of_replacing hp
  exact .shortened (by simp)

/-- Of `crises`, `axes` and `testes`, only the first gets an ending of singulars. -/
theorem singularized_replacing_es :
    Ensures Singularized (replacing "es" "is" (hasEnding ["cris", "ax", "test"])) := by
  intro noun p hp
  obtain ⟨stem, hfit, rfl, rfl⟩ := exists_of_replacing hp
  obtain ⟨e, he, stem, rfl⟩ := exists_of_hasEnding hfit
  simp only [List.append_assoc]
  simp only [List.mem_cons, List.not_mem_nil, or_false] at he
  rcases he with rfl | rfl | rfl
  · exact .ended (hasEnding_append (by decide) stem)
  · exact .loosened (hasEnding_append (by decide) stem) (hasEnding_append (by decide) stem)
  · exact .loosened (hasEnding_append (by decide) stem) (hasEnding_append (by decide) stem)

theorem singularized_dropping_zero : Ensures Singularized (dropping 0 endings) := by
  intro noun p hp
  obtain ⟨e, -, stem, rfl, rfl⟩ := exists_of_dropping (fun _ _ => Nat.zero_le _) hp
  exact .same (by simp)

theorem singularized_dropping_one (h : ∀ e ∈ endings, ['s'] <:+ e.toList) :
    Ensures Singularized (dropping 1 endings) := by
  intro noun p hp
  obtain ⟨e, he, stem, rfl, rfl⟩ := exists_of_dropping (fun e he => (h e he).length_le) hp
  obtain ⟨front, heq⟩ := h e he
  exact .shortened (by simp [← heq])

/-- What is left of an ending is one of singulars, or one that the rules make. -/
theorem singularized_dropping_two (hn : ∀ e ∈ endings, 2 ≤ e.toList.length)
    (h : ∀ e ∈ endings, hasEnding singularEndings (e.toList.take (e.toList.length - 2)) = true ∨
      hasEnding madeEndings (e.toList.take (e.toList.length - 2)) = true) :
    Ensures Singularized (dropping 2 endings) := by
  intro noun p hp
  obtain ⟨e, he, stem, rfl, rfl⟩ := exists_of_dropping hn hp
  rcases h e he with hsingular | hmade
  · exact .ended (hasEnding_append hsingular stem)
  · exact .made (hasEnding_append hmade stem)

end Kinds

/-- Every rule for singulars is of one of these kinds. -/
theorem singularized_of_mem : ∀ rule ∈ singularRules, Ensures Singularized rule := by
  simp only [singularRules, List.forall_mem_cons, List.not_mem_nil, false_imp_iff, implies_true, and_true]
  and_intros
  -- alias, status, bus
  · exact singularized_sibilant (by decide)
  · exact singularized_sibilant (by decide)
  · exact singularized_sibilant (by decide)
  -- octopus, virus
  · exact singularized_replacing_ended (by decide)
  -- matrix, vertex, index
  · exact singularized_replacing_made (by decide)
  · exact singularized_replacing_made (by decide)
  · exact singularized_replacing_made (by decide)
  -- crisis, axis, testis
  · exact singularized_replacing_es
  · exact singularized_dropping_zero
  -- analysis
  · exact singularized_replacing_ended (by decide)
  -- shoe
  · exact singularized_dropping_one (by decide)
  -- buffalo, tomato, potato, hero
  · exact singularized_dropping_two (by decide) (by decide)
  -- box, branch, class, dish
  · exact singularized_dropping_two (by decide) (by decide)
  -- movie
  · exact singularized_dropping_one (by decide)
  -- category
  · exact singularized_replacing_made (by decide)
  -- hive, relative
  · exact singularized_dropping_one (by decide)
  -- shelf, knife
  · exact singularized_replacing_made (by decide)
  · exact singularized_replacing_made (by decide)
  -- datum, medium
  · exact singularized_replacing_made (by decide)
  · exact singularized_dropping_zero
  -- post
  · exact singularized_replacing_s

theorem singularized_of_singularRules {noun p : List Char}
    (h : firstApplying singularRules noun = some p) : Singularized noun p :=
  ensures_firstApplying singularized_of_mem noun p h

theorem singularized (noun : List Char) : Singularized noun (singularNoun noun) := by
  rw [singularNoun]
  cases h : firstApplying singularRules noun with
  | none => exact .same rfl
  | some p => exact singularized_of_singularRules h

/-! ## Singulars that are taken for singulars -/

section Endings

attribute [local simp] List.cons_prefix_cons ne_cons_cons backwards_eq_singleton anyStem_eq
  staysSingular singularEndings pluralEndings madeEndings loosenedEndings

theorem staysSingular_of_madeEndings {noun : List Char} (h : hasEnding madeEndings noun = true) :
    staysSingular noun = true := by
  obtain ⟨r, rfl⟩ := exists_backwards noun
  rcases r with _ | ⟨c, t⟩
  · exact absurd h (by decide)
  simp at h
  rcases h with rfl | ⟨rfl, -⟩ | ⟨rfl, -⟩ | rfl | rfl | rfl | ⟨rfl, -⟩ | ⟨rfl, -⟩ <;> simp

theorem staysSingular_of_singularEndings {noun : List Char}
    (h : hasEnding singularEndings noun = true) : staysSingular noun = true := by
  rw [staysSingular, h]
  simp

/-- Where only an `s` is taken off, a singular is left, unless it was put after a plural. -/
theorem staysSingular_of_shortened {noun : List Char} (hsettles : singularSettles (noun ++ ['s']) = true)
    (hshort : singularNoun (noun ++ ['s']) = noun) : staysSingular noun = true := by
  obtain ⟨r, rfl⟩ := exists_backwards noun
  have hback : backwards r ++ ['s'] = backwards ('s' :: r) := by simp [backwards]
  have hchanged : ¬staysSingular (backwards ('s' :: r)) = true := by
    rw [← singularNoun_eq_self_iff, ← hback, hshort]
    simp
  rw [hback] at hsettles
  simp [singularSettles] at hsettles hchanged
  rcases r with _ | ⟨c, t⟩
  · decide
  simp at hsettles hchanged ⊢
  obtain ⟨halias, -, hs, -⟩ := hchanged
  obtain ⟨-, -, hta, hia, hoctopi, hviri⟩ := hsettles.resolve_left fun h => halias h.1 h.2
  exact .inr ⟨hs, imp_iff_not_or.mp hta, imp_iff_not_or.mp hia, imp_iff_not_or.mp hoctopi,
    imp_iff_not_or.mp hviri⟩

theorem not_staysSingular_of_not_settles {noun : List Char} (h : singularSettles noun = false) :
    staysSingular (singularNoun noun) = false := by
  obtain ⟨r, rfl⟩ := exists_backwards noun
  rw [singularSettles, Bool.or_eq_false_iff, Bool.not_eq_false'] at h
  obtain ⟨halias, hending⟩ := h
  simp at halias hending
  rcases hending with ⟨t, rfl⟩ | ⟨t, rfl⟩ | ⟨t, rfl⟩ | ⟨t, rfl⟩ | ⟨t, rfl⟩ | ⟨t, rfl⟩
  · simp [singularNoun, singularRules]
  · simp [singularNoun, singularRules]
  · simp [singularNoun, singularRules]
  · simp at halias
    simp [singularNoun, singularRules, halias]
  · simp [singularNoun, singularRules]
  · simp [singularNoun, singularRules]

/-- The nouns whose singular is a singular. -/
theorem staysSingular_singularNoun_iff (noun : List Char) :
    staysSingular (singularNoun noun) = true ↔ singularSettles noun = true := by
  constructor
  · intro hs
    by_contra hsettles
    rw [not_staysSingular_of_not_settles (Bool.eq_false_iff.mpr hsettles)] at hs
    cases hs
  intro hsettles
  cases singularized noun with
  | same h =>
    rw [h]
    exact (singularNoun_eq_self_iff noun).mp h
  | shortened h =>
    rw [h] at hsettles
    exact staysSingular_of_shortened hsettles (congrArg singularNoun h).symm
  | ended h => exact staysSingular_of_singularEndings h
  | made h => exact staysSingular_of_madeEndings h
  | loosened h _ =>
    obtain ⟨r, rfl⟩ := exists_backwards noun
    simp at h
    rcases h with ⟨t, rfl⟩ | ⟨t, rfl⟩ <;> simp [singularSettles] at hsettles

end Endings

end SqlMapper.English
