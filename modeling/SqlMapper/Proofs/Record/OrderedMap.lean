import Mathlib.Data.Finset.Card
import SqlMapper.Proofs.Record.History

/-!
# Records as ordered maps

Whatever pairs were put into a record, and in whatever order, the record is a map: a key has the value that
was put in last, and the keys stand in the order in which they were put in first.

* `Filled`: how a record comes about, and all that was put into it.
* `IsMapOf`: an ordered map, said of a record and what was put into it.
* `valueEq_self_iff`: a record equals itself unless a float in it is not a number.
* `isMapOf_of_filled`: every record is the ordered map of its history.
-/

namespace SqlMapper

/-! ## Specification -/

namespace Value

/-- Whether a value is a float that is not a number. -/
def isNaN : Value → Bool
  | float x => x.isNaN
  | _ => false

theorem valueEq_self_iff (v : Value) : v.valueEq v = true ↔ v.isNaN = false := by
  cases v with
  | float x => simp [valueEq, isNaN, Binary64.valueEq]
  | _ => simp [valueEq, isNaN]

end Value

namespace Record

/-- How a record comes about: it is empty at first or collected from some pairs, and then pairs are put in,
    one after the other, in place or on the way to the next one. The list holds all that was put in, in
    order. -/
inductive Filled : List (String × Value) → Record → Prop where
  | new : Filled [] empty
  | collected (l : List (String × Value)) : Filled l (ofList l)
  | inserted {l : List (String × Value)} {r : Record} (before : Filled l r) (key : String)
    (value : Value) : Filled (l ++ [(key, value)]) (r.insert key value)

/-- The record is the ordered map of a history. -/
structure IsMapOf (l : List (String × Value)) (r : Record) : Prop where
  nodup : r.keys.Nodup
  mem_keys_iff : ∀ key, key ∈ r.keys ↔ key ∈ l.map Prod.fst
  /-- The keys stand in the order of their first places in the history. -/
  ordered : r.keys.Pairwise fun key key' => (l.map Prod.fst).idxOf key < (l.map Prod.fst).idxOf key'
  /-- Under a key the value is found that was put in last. -/
  get?_last : ∀ front key value back, l = front ++ (key, value) :: back → key ∉ back.map Prod.fst →
    r.get? key = some value
  get?_eq_none_iff : ∀ key, r.get? key = none ↔ key ∉ l.map Prod.fst
  contains_iff : ∀ key, r.contains key = true ↔ key ∈ l.map Prod.fst
  size_eq : r.size = (l.map Prod.fst).toFinset.card
  isEmpty_iff : r.isEmpty = true ↔ l = []
  /-- Whoever goes through the pairs meets the keys in order, each with the value found under it. -/
  pairs_eq : r.pairs.map (fun p => (p.1, some p.2)) = r.keys.map fun key => (key, r.get? key)

/-! ## Histories -/

variable {l : List (String × Value)} {r : Record} {key : String} {value : Value}

/-- Only what was put in matters, not how. -/
theorem Filled.eq_ofList (h : Filled l r) : r = ofList l := by
  induction h with
  | new => rfl
  | collected l => rfl
  | inserted before key value ih => rw [ofList_concat, ih]

/-! ## Keys -/

/-- Without repetitions, things stand in the order of their first places. -/
theorem pairwise_idxOf_eraseDups (l : List String) :
    l.eraseDups.Pairwise fun a b => l.idxOf a < l.idxOf b := by
  induction l using List.reverseRecOn with
  | nil => exact .nil
  | append_singleton l c ih =>
    have places : ∀ a ∈ l.eraseDups, (l ++ [c]).idxOf a = l.idxOf a := fun a ha =>
      List.idxOf_append_of_mem (List.mem_eraseDups.mp ha)
    have front : l.eraseDups.Pairwise fun a b => (l ++ [c]).idxOf a < (l ++ [c]).idxOf b := by
      refine ih.imp_of_mem fun ha hb lt => ?_
      rwa [places _ ha, places _ hb]
    rw [List.eraseDups_append]
    by_cases seen : c ∈ l
    · have nothing : [c].removeAll l = [] := by simp [List.removeAll, seen]
      rwa [nothing, List.eraseDups_nil, List.append_nil]
    · have only : [c].removeAll l = [c] := by simp [List.removeAll, seen]
      have alone : [c].eraseDups = [c] := rfl
      rw [only, alone, List.pairwise_append]
      refine ⟨front, List.pairwise_singleton _ _, ?_⟩
      intro a ha b hb
      obtain rfl := List.mem_singleton.mp hb
      rw [places a ha, List.idxOf_append_of_notMem seen]
      exact Nat.lt_add_right _ (List.idxOf_lt_length_of_mem (List.mem_eraseDups.mp ha))

theorem mem_keys_ofList : key ∈ (ofList l).keys ↔ key ∈ l.map Prod.fst := by
  rw [keys_ofList, List.mem_eraseDups]

theorem size_ofList (l : List (String × Value)) :
    (ofList l).size = (l.map Prod.fst).toFinset.card := by
  have same : (ofList l).keys.toFinset = (l.map Prod.fst).toFinset := by
    ext key
    rw [List.mem_toFinset, List.mem_toFinset, mem_keys_ofList]
  have distinct : (ofList l).keys.Nodup := (ofList l).nodup
  rw [← same, List.toFinset_card_of_nodup distinct, keys, List.length_map]
  rfl

theorem isEmpty_ofList_iff : (ofList l).isEmpty = true ↔ l = [] := by
  rw [isEmpty, List.isEmpty_iff, ← List.map_eq_nil_iff (f := Prod.fst), ← keys,
    List.eq_nil_iff_forall_not_mem]
  simp only [mem_keys_ofList]
  rw [← List.eq_nil_iff_forall_not_mem, List.map_eq_nil_iff]

/-! ## Look-up -/

/-- What is found stands in the first pair of the key. -/
theorem exists_split_of_get? (h : r.get? key = some value) :
    ∃ front back, r.pairs = front ++ (key, value) :: back ∧ key ∉ front.map Prod.fst := by
  obtain ⟨front, back, hpairs, hfront⟩ := List.lookup_eq_some_iff.mp h
  refine ⟨front, back, hpairs, fun hmem => ?_⟩
  obtain ⟨p, hp, rfl⟩ := List.mem_map.mp hmem
  exact bne_iff_ne.mp (hfront p hp) rfl

/-- A key has the value of its pair, there being one pair only. -/
theorem get?_of_mem (h : (key, value) ∈ r.pairs) : r.get? key = some value := by
  obtain ⟨front, back, hpairs⟩ := List.append_of_mem h
  have distinct := r.nodup
  rw [hpairs, List.map_append, List.nodup_append] at distinct
  obtain ⟨-, -, apart⟩ := distinct
  refine List.lookup_eq_some_iff.mpr ⟨front, back, hpairs, fun p hp => bne_iff_ne.mpr ?_⟩
  exact (apart p.1 (List.mem_map_of_mem hp) key List.mem_cons_self).symm

theorem get?_eq_none_iff : r.get? key = none ↔ key ∉ r.keys := by
  rw [get?, List.lookup_eq_none_iff, keys, List.mem_map]
  constructor
  · rintro h ⟨p, hp, rfl⟩
    exact bne_iff_ne.mp (h p hp) rfl
  · intro h p hp
    refine bne_iff_ne.mpr ?_
    rintro rfl
    exact h ⟨p, hp, rfl⟩

theorem contains_iff : r.contains key = true ↔ key ∈ r.keys := by
  rw [contains, Option.isSome_iff_ne_none, ne_eq, get?_eq_none_iff, not_not]

/-- The pairs are the keys with what is found under them. -/
theorem pairs_eq_keys_get? (r : Record) :
    r.pairs.map (fun p => (p.1, some p.2)) = r.keys.map fun key => (key, r.get? key) := by
  rw [keys, List.map_map]
  refine List.map_congr_left fun p hp => ?_
  rw [Function.comp_apply, get?_of_mem hp]

/-! ## Equality -/

theorem ofList_pairs (r : Record) : ofList r.pairs = r := by
  have same : (ofList r.pairs).pairs = r.pairs := pairs_ofList r.nodup
  obtain ⟨pairs, nodup⟩ := r
  rw [← Record.mk.injEq _ (ofList pairs).nodup _ nodup] at same
  exact same

theorem valueEq_self_iff (r : Record) :
    r.valueEq r = true ↔ ∀ p ∈ r.pairs, p.2.isNaN = false := by
  have zipped : r.pairs.zip r.pairs = r.pairs.map fun p => (p, p) := by
    simpa using List.zip_map' (f := id) (g := id) (l := r.pairs)
  simp [valueEq, zipped, Value.valueEq_self_iff]

/-! ## The ordered map -/

theorem isMapOf_ofList (l : List (String × Value)) : IsMapOf l (ofList l) where
  nodup := (ofList l).nodup
  mem_keys_iff _ := mem_keys_ofList
  ordered := by
    rw [keys_ofList]
    exact pairwise_idxOf_eraseDups _
  get?_last front key value back h last := by
    rw [h]
    exact get?_ofList_append front last
  get?_eq_none_iff key := by rw [get?_eq_none_iff, mem_keys_ofList]
  contains_iff key := by rw [contains_iff, mem_keys_ofList]
  size_eq := size_ofList l
  isEmpty_iff := isEmpty_ofList_iff
  pairs_eq := (ofList l).pairs_eq_keys_get?

/-- **Every record is the ordered map of its history.** However it was collected and filled, its keys are
    distinct and stand in the order in which they were put in first; a key has the value that was put in
    last, and no value if it never was; its size is the number of distinct keys; and its pairs are its keys
    with their values. Collecting these pairs again gives the same record, which equals the first one as
    values do unless one of them is a float that is not a number. -/
theorem isMapOf_of_filled (h : Filled l r) :
    IsMapOf l r ∧ ofList r.pairs = r ∧
      ((ofList r.pairs).valueEq r = true ↔ ∀ p ∈ r.pairs, p.2.isNaN = false) := by
  refine ⟨?_, r.ofList_pairs, ?_⟩
  · rw [h.eq_ofList]
    exact isMapOf_ofList l
  · rw [ofList_pairs]
    exact r.valueEq_self_iff

/-- Two pairs, of which the second holds no number. -/
def priced : List (String × Value) := [("id", .integer 1), ("price", .float .nan)]

/-- A record of two pairs, in which one value is then replaced and to which a third pair is added. -/
theorem isMapOf_of_filled_replaced :
    let l := priced ++ [("id", .integer 2)] ++ [("a", .null)]
    let r := ((ofList priced).insert "id" (.integer 2)).insert "a" .null
    Filled l r ∧ r.keys = ["id", "price", "a"] ∧ r.get? "id" = some (.integer 2) ∧ r.get? "b" = none ∧
      r.size = 3 ∧ ofList r.pairs = r ∧ (ofList r.pairs).valueEq r = false := by
  intro l r
  have filled : Filled l r := ((Filled.collected priced).inserted "id" (.integer 2)).inserted "a" .null
  obtain ⟨map, again, equal⟩ := isMapOf_of_filled filled
  refine ⟨filled, rfl, ?_, ?_, ?_, again, ?_⟩
  · exact map.get?_last priced "id" (.integer 2) [("a", .null)] rfl (by decide)
  · exact (map.get?_eq_none_iff "b").mpr (by decide)
  · rw [map.size_eq]
    decide
  · rw [Bool.eq_false_iff]
    intro h
    exact absurd (equal.mp h ("price", .float .nan) (by decide)) (by decide)

end Record

end SqlMapper
