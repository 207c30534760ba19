import SqlMapper.Model.Catalog

/-!
# Looking up entity types

What is found in a catalog after a type was put into it.

* `lookup_put`, `lookup_register`, `lookup_getOrRegister`: only the name that is asked for is affected.
* `Catalog.declared`: a catalog of declared types only.
* `exists_of_lookup_declared`: it holds nothing else.
-/

namespace SqlMapper.Catalog

variable {c : Catalog} {i : Inflector} {types : List EntityType}

/-! ## After one change -/

theorem lookup_putEntry (name : String) (r : Registered) (l : List (String × Registered)) (n : String) :
    (putEntry name r l).lookup n = if n = name then some r else l.lookup n := by
  induction l with
  | nil =>
    by_cases h : n = name
    · simp [putEntry, h]
    · have hb : (n == name) = false := by simpa using h
      simp [putEntry, List.lookup_cons, h, hb]
  | cons entry l ih =>
    obtain ⟨k, old⟩ := entry
    by_cases hk : k = name
    · subst hk
      by_cases h : n = k
      · simp [putEntry, h]
      · have hb : (n == k) = false := by simpa using h
        simp [putEntry, List.lookup_cons, h, hb]
    · by_cases h : n = k
      · subst h
        simp [putEntry, hk]
      · have hb : (n == k) = false := by simpa using h
        simp [putEntry, List.lookup_cons, hk, hb, ih]

theorem lookup_put (name : String) (e : EntityType) (n : String) :
    (c.put name e).2.lookup n = if n = name then some (c.put name e).1 else c.lookup n :=
  lookup_putEntry name _ c.entries n

theorem lookup_register (e : EntityType) (n : String) :
    (c.register e).2.lookup n = if n = e.name then some (c.register e).1 else c.lookup n :=
  lookup_put e.name e n

theorem lookup_getOrRegister (name : String) (build : EntityType) (n : String) :
    (c.getOrRegister name build).2.2.lookup n =
      if n = name then some (c.getOrRegister name build).1 else c.lookup n := by
  unfold getOrRegister
  cases h : c.lookup name with
  | some r =>
    by_cases hn : n = name
    · rw [if_pos hn, hn, h]
    · rw [if_neg hn]
  | none => exact lookup_put name build n

/-- What is found is taken as it is, and only what is not found is built. -/
theorem getOrRegister_entity (name : String) (build : EntityType) :
    (c.getOrRegister name build).1.entity = ((c.lookup name).map Registered.entity).getD build := by
  unfold getOrRegister
  cases c.lookup name <;> rfl

theorem inflector_getOrRegister (name : String) (build : EntityType) :
    (c.getOrRegister name build).2.2.inflector = c.inflector := by
  unfold getOrRegister
  cases c.lookup name <;> rfl

/-! ## Declared types -/

/-- The catalog after the given types were declared, one after the other. -/
def declared (i : Inflector) (types : List EntityType) : Catalog :=
  types.foldl (fun c e => (c.register e).2) (.empty i)

theorem exists_of_lookup_foldl {n : String} {r : Registered}
    (h : (types.foldl (fun c e => (c.register e).2) c).lookup n = some r) :
    (∃ e ∈ types, e.name = n) ∨ c.lookup n = some r := by
  induction types generalizing c with
  | nil => exact .inr h
  | cons e types ih =>
    rcases ih h with ⟨e', he', hn⟩ | hput
    · exact .inl ⟨e', List.mem_cons_of_mem e he', hn⟩
    · have hput := (lookup_register e n).symm.trans hput
      split at hput
      · next hn => exact .inl ⟨e, List.mem_cons_self, hn.symm⟩
      · exact .inr hput

/-- Only declared names are found. -/
theorem exists_of_lookup_declared {n : String} {r : Registered}
    (h : (declared i types).lookup n = some r) : ∃ e ∈ types, e.name = n := by
  rcases exists_of_lookup_foldl h with found | hempty
  · exact found
  · cases hempty

theorem inflector_foldl : (types.foldl (fun c e => (c.register e).2) c).inflector = c.inflector := by
  induction types generalizing c with
  | nil => rfl
  | cons e types ih => exact ih

theorem inflector_declared : (declared i types).inflector = i := inflector_foldl

end SqlMapper.Catalog
