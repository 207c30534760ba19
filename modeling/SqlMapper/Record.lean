import SqlMapper.Value

/-!
# Records

Ordered pairs of a key and a value, with each key once. Inserting under a key that is there replaces
the value and keeps the place.

* `Record.keys_insert`: the keys after an insertion.
* `Record.get?_insert`: what is found after an insertion.
-/

namespace SqlMapper

/-- Pairs with `value` put under `key`: in the place of the key if it is there, else at the end. -/
def putPair (key : String) (value : Value) : List (String × Value) → List (String × Value)
  | [] => [(key, value)]
  | (k, v) :: rest => if k = key then (k, value) :: rest else (k, v) :: putPair key value rest

theorem map_fst_putPair (key : String) (value : Value) (l : List (String × Value)) :
    (putPair key value l).map Prod.fst =
      if key ∈ l.map Prod.fst then l.map Prod.fst else l.map Prod.fst ++ [key] := by
  induction l with
  | nil => simp [putPair]
  | cons p rest ih =>
    obtain ⟨k, v⟩ := p
    by_cases h : k = key
    · simp [putPair, h]
    · by_cases hm : key ∈ rest.map Prod.fst
      · simp only [putPair, h, if_false, List.map_cons, ih, hm, if_true]
        simp [hm]
      · simp only [putPair, h, if_false, List.map_cons, ih, hm]
        simp [hm, Ne.symm h]

/-- A row, or the values for one: pairs in order, no key twice. -/
structure Record where
  pairs : List (String × Value)
  nodup : (pairs.map Prod.fst).Nodup
deriving DecidableEq

namespace Record

/-- The record without pairs (`Record.new`). -/
def empty : Record := ⟨[], List.nodup_nil⟩

instance : Inhabited Record := ⟨empty⟩

/-- The keys in order. -/
def keys (r : Record) : List String := r.pairs.map Prod.fst

/-- Puts a value under a key. -/
def insert (r : Record) (key : String) (value : Value) : Record where
  pairs := putPair key value r.pairs
  nodup := by
    rw [map_fst_putPair]
    split
    · exact r.nodup
    · next h =>
      refine List.nodup_append.2 ⟨r.nodup, by simp, ?_⟩
      rintro a ha b hb rfl
      rw [List.mem_singleton] at hb
      exact h (hb ▸ ha)

/-- Inserts the pairs of a list one after the other (`Record.from_iter`). -/
def ofList (l : List (String × Value)) : Record :=
  l.foldl (fun r p => r.insert p.1 p.2) empty

/-- The value under a key. -/
def get? (r : Record) (key : String) : Option Value := r.pairs.lookup key

def contains (r : Record) (key : String) : Bool := (r.get? key).isSome

def size (r : Record) : Nat := r.pairs.length

def isEmpty (r : Record) : Bool := r.pairs.isEmpty

/-- Equality as values, in the same order. -/
def valueEq (r s : Record) : Bool :=
  r.pairs.length == s.pairs.length &&
    (r.pairs.zip s.pairs).all fun (p, q) => p.1 == q.1 && p.2.valueEq q.2

/-- The JSON object for a record (`Record.serialize`). -/
def toJson (r : Record) : Json := .object (r.pairs.map fun (k, v) => (k, v.toJson))

/-! ## Keys and look-up after an insertion -/

theorem keys_insert (r : Record) (key : String) (value : Value) :
    (r.insert key value).keys = if key ∈ r.keys then r.keys else r.keys ++ [key] :=
  map_fst_putPair key value r.pairs

theorem lookup_putPair (key : String) (value : Value) (l : List (String × Value)) (k : String) :
    (putPair key value l).lookup k = if k = key then some value else l.lookup k := by
  induction l with
  | nil =>
    by_cases h : k = key
    · simp [putPair, h]
    · have hb : (k == key) = false := by simpa using h
      simp [putPair, List.lookup_cons, h, hb]
  | cons p rest ih =>
    obtain ⟨a, v⟩ := p
    by_cases ha : a = key
    · subst ha
      by_cases h : k = a
      · simp [putPair, h]
      · have hb : (k == a) = false := by simpa using h
        simp [putPair, List.lookup_cons, h, hb]
    · by_cases h : k = a
      · subst h
        simp [putPair, ha]
      · have hb : (k == a) = false := by simpa using h
        simp [putPair, List.lookup_cons, ha, hb, ih]

@[simp] theorem get?_insert (r : Record) (key : String) (value : Value) (k : String) :
    (r.insert key value).get? k = if k = key then some value else r.get? k :=
  lookup_putPair key value r.pairs k

end Record

end SqlMapper
