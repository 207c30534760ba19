/-!
# Clauses of a statement

The clauses that a dataset keeps or a call brings along: selected fields, condition, order and limit.
Each may be unset, so that the clauses of a call can be laid over those of a dataset.

* `Clauses.overlay`: a clause that is set in the overlay wins.
-/

namespace SqlMapper

/-- The optional clauses of a statement (`DatasetOptions`). -/
structure Clauses where
  /-- The selected field expressions; all fields if unset. -/
  select? : Option (List String)
  /-- The condition as it stands in the statement. -/
  filter? : Option String
  /-- The field expressions that rows are ordered by. -/
  order? : Option (List String)
  limit? : Option UInt64
deriving DecidableEq

namespace Clauses

/-- No clause is set. -/
def none : Clauses := ⟨.none, .none, .none, .none⟩

/-- The clauses of `upper` where they are set, and those of `base` elsewhere (`DatasetOptions.merge`). -/
def overlay (base upper : Clauses) : Clauses where
  select? := upper.select?.orElse fun _ => base.select?
  filter? := upper.filter?.orElse fun _ => base.filter?
  order? := upper.order?.orElse fun _ => base.order?
  limit? := upper.limit?.orElse fun _ => base.limit?

/-- Only the limit is set (`DatasetOptions.with_limit`). -/
def limited (n : UInt64) : Clauses := { none with limit? := some n }

/-- The condition, unless it is empty. -/
def condition? (c : Clauses) : Option String := c.filter?.filter (· ≠ "")

/-- The order, unless it is empty. -/
def ordering? (c : Clauses) : Option (List String) := c.order?.filter (· ≠ [])

end Clauses

end SqlMapper
