import Mathlib.Data.List.Induction
import SqlMapper.Record

/-!
# Records filled one pair after the other

A record that pairs were put into has one entry for each of their keys, in the order in which the keys came
first. An entry holds the value that came last.

* `keys_ofList`: the keys and their order.
* `get?_ofList`, `get?_ofList_append`: the value under a key.
* `putPair_of_not_mem`, `putPair_append_cons`: where a pair is put.
* `pairs_ofList`: where no key comes twice, the entries are the pairs.
-/

namespace SqlMapper.Record

variable {l : List (String × Value)} {key : String} {value : Value}

theorem ofList_concat (l : List (String × Value)) (p : String × Value) :
    ofList (l ++ [p]) = (ofList l).insert p.1 p.2 := by
  rw [ofList, List.foldl_append]
  rfl

/-- The keys stand in the order in which they came first. -/
theorem keys_ofList (l : List (String × Value)) : (ofList l).keys = (l.map Prod.fst).eraseDups := by
  induction l using List.reverseRecOn with
  | nil => rfl
  | append_singleton l p ih =>
    rw [ofList_concat, keys_insert, ih, List.map_append, List.map_singleton, List.eraseDups_append]
    by_cases seen : p.1 ∈ l.map Prod.fst
    · rw [if_pos (List.mem_eraseDups.mpr seen), List.removeAll, List.filter_cons_of_neg (by simpa using seen)]
      exact (List.append_nil _).symm
    · rw [if_neg (mt List.mem_eraseDups.mp seen), List.removeAll,
        List.filter_cons_of_pos (by simpa using seen)]
      rfl

/-- Under a key the value is found that came last. -/
theorem get?_ofList (l : List (String × Value)) (key : String) :
    (ofList l).get? key = l.reverse.lookup key := by
  induction l using List.reverseRecOn with
  | nil => rfl
  | append_singleton l p ih =>
    rw [ofList_concat, get?_insert, ih, List.reverse_append, List.reverse_singleton, List.singleton_append,
      List.lookup_cons]
    by_cases h : key = p.1
    · simp [h]
    · simp [h, beq_false_of_ne h]

/-- A value that no later pair replaces is found. -/
theorem get?_ofList_append (front : List (String × Value)) {back : List (String × Value)}
    (last : key ∉ back.map Prod.fst) : (ofList (front ++ (key, value) :: back)).get? key = some value := by
  have missing : back.reverse.lookup key = none := by
    rw [List.lookup_eq_none_iff]
    intro p hp
    have hne : key ≠ p.1 := by
      rintro rfl
      exact last (List.mem_map_of_mem (List.mem_reverse.mp hp))
    exact bne_iff_ne.mpr hne
  rw [get?_ofList, List.reverse_append, List.reverse_cons, List.append_assoc, List.lookup_append, missing]
  simp

theorem putPair_of_not_mem (h : key ∉ l.map Prod.fst) : putPair key value l = l ++ [(key, value)] := by
  induction l with
  | nil => rfl
  | cons p l ih =>
    obtain ⟨hp, hl⟩ := not_or.mp (mt List.mem_cons.mpr h)
    rw [putPair, if_neg (Ne.symm hp), ih hl]
    rfl

/-- A value that is put in under a key that is there takes the place of the old one. -/
theorem putPair_append_cons {front back : List (String × Value)} {old : Value}
    (h : key ∉ front.map Prod.fst) (value : Value) :
    putPair key value (front ++ (key, old) :: back) = front ++ (key, value) :: back := by
  induction front with
  | nil => exact if_pos rfl
  | cons p front ih =>
    obtain ⟨hp, hfront⟩ := not_or.mp (mt List.mem_cons.mpr h)
    rw [List.cons_append, putPair, if_neg (Ne.symm hp), ih hfront]
    rfl

/-- Where no key comes twice, no pair is lost and none is moved. -/
theorem pairs_ofList (h : (l.map Prod.fst).Nodup) : (ofList l).pairs = l := by
  induction l using List.reverseRecOn with
  | nil => rfl
  | append_singleton l p ih =>
    rw [List.map_append, List.nodup_append] at h
    obtain ⟨hl, -, hp⟩ := h
    have fresh : p.1 ∉ l.map Prod.fst := fun hmem => hp p.1 hmem p.1 (List.mem_singleton_self p.1) rfl
    rw [ofList_concat]
    show putPair p.1 p.2 (ofList l).pairs = l ++ [p]
    rw [ih hl, putPair_of_not_mem fresh]

end SqlMapper.Record
