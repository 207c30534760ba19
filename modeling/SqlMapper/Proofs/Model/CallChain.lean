import Mathlib.Data.List.Induction
import SqlMapper.Proofs.Text.Split
import SqlMapper.Session.Step

/-!
# Datasets built by chains of calls

A dataset is built by calls, any number of them in any order. Of the calls that select fields, set an
order or set a limit the last one counts; the conditions are all kept. So calls of different kinds may
change places, and only the order within a kind matters.

* `Refinement.kind`: the four kinds of calls.
* `conjunction?`: the conditions of a chain as one.
* `chained_ofTable`: the dataset that a chain builds.
* `chained_clauses_by_kind`: the clauses of a chain, and chains in another order.
-/

namespace SqlMapper

/-! ## Specification -/

namespace Session.Refinement

/-- What a call is about. Both ways to add a condition are of one kind. -/
inductive Kind where
  | fields
  | condition
  | order
  | limit
deriving DecidableEq

def kind : Refinement → Kind
  | select _ => .fields
  | filter _ => .condition
  | whereEq _ _ => .condition
  | order _ => .order
  | limit _ => .limit

/-- The fields that a call selects. -/
def selected? : Refinement → Option (List String)
  | select fields => some fields
  | _ => none

/-- The condition that a call adds. -/
def condition? : Refinement → Option String
  | filter condition => some condition
  | whereEq column value => some (Dialect.mysql.equalityCondition column value)
  | _ => none

/-- The order that a call sets. -/
def ordered? : Refinement → Option (List String)
  | order fields => some fields
  | _ => none

/-- The limit that a call sets. -/
def limited? : Refinement → Option UInt64
  | limit n => some n
  | _ => none

end Session.Refinement

open Session (Refinement)

namespace Dataset

/-- The dataset after a chain of calls. -/
def chained (d : Dataset) (calls : List Refinement) : Dataset := calls.foldl Refinement.apply d

/-- A condition in brackets. -/
def bracketed (condition : String) : List Char := '(' :: condition.toList ++ [')']

/-- Conditions as one: each in brackets, with AND between. There is none without conditions. -/
def conjunction? (conditions : List String) : Option String :=
  if conditions = [] then none
  else some (String.ofList (Text.joinWith " AND ".toList (conditions.map bracketed)))

/-- The chains have the same calls of each kind, in the same order. -/
def SameByKind (calls calls' : List Refinement) : Prop :=
  ∀ k, calls.filter (·.kind = k) = calls'.filter (·.kind = k)

/-! ## One call -/

/-- One more condition stands at the end of the conjunction. -/
theorem conjunction?_concat (conditions : List String) (condition : String) :
    conjunction? (conditions ++ [condition]) =
      some (match conjunction? conditions with
        | some before => before ++ " AND " ++ ("(" ++ condition ++ ")")
        | none => "(" ++ condition ++ ")") := by
  have text : String.ofList (bracketed condition) = "(" ++ condition ++ ")" :=
    String.toList_inj.mp (by simp [bracketed])
  by_cases hnil : conditions = []
  · subst hnil
    exact congrArg some text
  · have hmap : conditions.map bracketed ≠ [] := fun h => hnil (List.map_eq_nil_iff.mp h)
    rw [conjunction?, if_neg (by simp), conjunction?, if_neg hnil, List.map_append,
      List.map_singleton, Text.joinWith_concat _ hmap, String.ofList_append, String.ofList_append,
      text, String.ofList_toList]

/-- **What one call does** to a dataset that has the given conditions. -/
theorem apply_eq (table : String) (select? : Option (List String)) (conditions : List String)
    (order? : Option (List String)) (limit? : Option UInt64) (c : Refinement) :
    c.apply ⟨table, ⟨select?, conjunction? conditions, order?, limit?⟩⟩ = ⟨table,
      { select? := c.selected?.or select?
        filter? := conjunction? (conditions ++ c.condition?.toList)
        order? := c.ordered?.or order?
        limit? := c.limited?.or limit? }⟩ := by
  have added (condition : String) :
      (⟨table, ⟨select?, conjunction? conditions, order?, limit?⟩⟩ : Dataset).filter condition =
        ⟨table, ⟨select?, conjunction? (conditions ++ [condition]), order?, limit?⟩⟩ := by
    rw [conjunction?_concat]
    rfl
  have kept : conjunction? (conditions ++ []) = conjunction? conditions := by rw [List.append_nil]
  cases c with
  | filter condition => exact added condition
  | whereEq column value => exact added _
  | select fields | order fields | limit n =>
    simp only [Refinement.condition?, Option.toList_none, kept]
    rfl

/-- Calls of different kinds may change places. -/
theorem apply_comm {a b : Refinement} (h : a.kind ≠ b.kind) (d : Dataset) :
    b.apply (a.apply d) = a.apply (b.apply d) := by
  cases a <;> cases b <;> simp [Refinement.kind] at h <;> rfl

/-! ## Chains -/

theorem chained_concat (d : Dataset) (calls : List Refinement) (c : Refinement) :
    d.chained (calls ++ [c]) = c.apply (d.chained calls) := by
  rw [chained, List.foldl_append]
  rfl

theorem filterMap_concat {α : Type} (set? : Refinement → Option α) (calls : List Refinement)
    (c : Refinement) :
    (calls ++ [c]).filterMap set? = calls.filterMap set? ++ (set? c).toList := by
  rw [List.filterMap_append]
  cases hset : set? c <;> simp [hset]

/-- Of what was set before and what may be set now, the last counts. -/
theorem getLast?_append_toList {α : Type} (l : List α) (x? : Option α) :
    (l ++ x?.toList).getLast? = x?.or l.getLast? := by
  cases x? <;> simp

/-- **The dataset that a chain builds**, by induction on the chain from its end. -/
theorem chained_ofTable (table : String) (calls : List Refinement) :
    (ofTable table).chained calls = ⟨table,
      { select? := (calls.filterMap Refinement.selected?).getLast?
        filter? := conjunction? (calls.filterMap Refinement.condition?)
        order? := (calls.filterMap Refinement.ordered?).getLast?
        limit? := (calls.filterMap Refinement.limited?).getLast? }⟩ := by
  induction calls using List.reverseRecOn with
  | nil => rfl
  | append_singleton calls c ih =>
    rw [chained_concat, ih, apply_eq]
    simp only [filterMap_concat, getLast?_append_toList]

/-! ## Chains in another order -/

/-- A call sets nothing that is of another kind. -/
theorem eq_none_of_kind_ne (c : Refinement) :
    (c.kind ≠ .fields → c.selected? = none) ∧ (c.kind ≠ .condition → c.condition? = none) ∧
      (c.kind ≠ .order → c.ordered? = none) ∧ (c.kind ≠ .limit → c.limited? = none) := by
  cases c <;> simp [Refinement.kind, Refinement.selected?, Refinement.condition?,
    Refinement.ordered?, Refinement.limited?]

/-- What is set by calls of one kind is found in the calls of this kind. -/
theorem filterMap_filter_kind {α : Type} {set? : Refinement → Option α} {k : Refinement.Kind}
    (only : ∀ c, c.kind ≠ k → set? c = none) (calls : List Refinement) :
    (calls.filter (·.kind = k)).filterMap set? = calls.filterMap set? := by
  rw [List.filterMap_filter]
  congr 1
  funext c
  by_cases hk : c.kind = k
  · simp [hk]
  · simp [hk, only c hk]

theorem filterMap_eq_of_sameByKind {α : Type} {set? : Refinement → Option α} {k : Refinement.Kind}
    (only : ∀ c, c.kind ≠ k → set? c = none) {calls calls' : List Refinement}
    (same : SameByKind calls calls') : calls.filterMap set? = calls'.filterMap set? := by
  rw [← filterMap_filter_kind only, same k, filterMap_filter_kind only]

/-- Chains with the same calls of each kind build the same dataset. -/
theorem chained_eq_of_sameByKind (table : String) {calls calls' : List Refinement}
    (same : SameByKind calls calls') :
    (ofTable table).chained calls = (ofTable table).chained calls' := by
  have fields := fun c => (eq_none_of_kind_ne c).1
  have condition := fun c => (eq_none_of_kind_ne c).2.1
  have order := fun c => (eq_none_of_kind_ne c).2.2.1
  have limit := fun c => (eq_none_of_kind_ne c).2.2.2
  rw [chained_ofTable, chained_ofTable, filterMap_eq_of_sameByKind fields same,
    filterMap_eq_of_sameByKind condition same, filterMap_eq_of_sameByKind order same,
    filterMap_eq_of_sameByKind limit same]

/-- **Only the order within a kind matters.** For every table and every chain of calls:

    * fields, order and limit are those of the last call that set them, and unset if there was none;
      the condition has those of all calls, in their order;
    * two calls of different kinds may change places, on every dataset;
    * a chain with the same calls of each kind in the same order gives the same statements. -/
theorem chained_clauses_by_kind (table : String) (calls : List Refinement) :
    (((ofTable table).chained calls).clauses.select? =
        (calls.filterMap Refinement.selected?).getLast? ∧
      ((ofTable table).chained calls).clauses.order? =
        (calls.filterMap Refinement.ordered?).getLast? ∧
      ((ofTable table).chained calls).clauses.limit? =
        (calls.filterMap Refinement.limited?).getLast? ∧
      ((ofTable table).chained calls).clauses.filter? =
        conjunction? (calls.filterMap Refinement.condition?)) ∧
    (∀ (d : Dataset) (a b : Refinement), a.kind ≠ b.kind →
      b.apply (a.apply d) = a.apply (b.apply d)) ∧
    ∀ calls', SameByKind calls calls' →
      ((ofTable table).chained calls').selectSql = ((ofTable table).chained calls).selectSql ∧
      (∀ values overrides, ((ofTable table).chained calls').updateSql values overrides =
        ((ofTable table).chained calls).updateSql values overrides) ∧
      ((ofTable table).chained calls').deleteSql = ((ofTable table).chained calls).deleteSql := by
  refine ⟨?_, fun d a b h => apply_comm h d, ?_⟩
  · rw [chained_ofTable]
    exact ⟨rfl, rfl, rfl, rfl⟩
  · intro calls' same
    rw [chained_eq_of_sameByKind table same]
    exact ⟨rfl, fun _ _ => rfl, rfl⟩

/-- A chain with two conditions, and the same with its limit and its order in other places. -/
theorem chained_clauses_by_kind_posts :
    let calls : List Refinement :=
      [.filter "score > 3", .limit 5, .whereEq "title" (.text "it's"), .order ["id"], .order ["id DESC"]]
    let calls' : List Refinement :=
      [.order ["id"], .filter "score > 3", .order ["id DESC"], .whereEq "title" (.text "it's"), .limit 5]
    ((ofTable "posts").chained calls).selectSql =
        "SELECT * FROM `posts` WHERE (score > 3) AND (`title` = 'it''s') ORDER BY `id` DESC LIMIT 5" ∧
      (Refinement.limit 5).apply ((Refinement.filter "score > 3").apply (ofTable "posts")) =
        (Refinement.filter "score > 3").apply ((Refinement.limit 5).apply (ofTable "posts")) ∧
      ((ofTable "posts").chained calls').selectSql = ((ofTable "posts").chained calls).selectSql ∧
      ((ofTable "posts").chained calls').deleteSql = ((ofTable "posts").chained calls).deleteSql := by
  intro calls calls'
  have same : SameByKind calls calls' := by
    intro k
    cases k <;> rfl
  obtain ⟨-, swap, texts⟩ := chained_clauses_by_kind "posts" calls
  obtain ⟨select, -, delete⟩ := texts calls' same
  exact ⟨by decide, swap _ _ _ (by decide), select, delete⟩

end Dataset

end SqlMapper
