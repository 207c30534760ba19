import SqlMapper.Row.Decoder

/-!
# Scripted results

The result of a query as a script gives it: rows, the fields that are reported, from which fetch on and
up to which, and a fetch that fails.

* `Result.stream`: the fetches of a result.
-/

namespace SqlMapper.Scripted

/-- A result as a script gives it. -/
structure Result where
  fields : List Field
  /-- The rows in order; where there is none the fetch brings the end. -/
  rows : List (Option RawRow)
  /-- The fields are reported once that many fetches were made. -/
  fieldsAfter : Nat
  /-- And no longer when more fetches than that were made. -/
  fieldsUntil? : Option Nat
  /-- The number of a fetch that fails, and its error. -/
  failure? : Option (Nat × Error)

namespace Result

/-- The fields that are reported once `made` fetches were made. -/
def fieldsAt (r : Result) (made : Nat) : List Field :=
  if r.fieldsAfter ≤ made ∧ (r.fieldsUntil?.map (decide <| made ≤ ·)).getD true then r.fields else []

/-- The fetch that fails, if it is the one with the given number. -/
def failing (r : Result) (number : Nat) : RowStream :=
  match r.failure? with
  | some (n, e) => if n = number then [⟨.error e, r.fieldsAt (number + 1)⟩] else []
  | none => []

/-- The fetches from the one with the given number on. The one that fails uses up no row. -/
def streamFrom (r : Result) (number : Nat) : List (Option RawRow) → RowStream
  | [] => r.failing number
  | row :: rest =>
    let before := r.failing number
    let next := number + before.length + 1
    before ++ ⟨.ok row, r.fieldsAt next⟩ :: streamFrom r next rest

/-- The fetches of a result. -/
def stream (r : Result) : RowStream := r.streamFrom 0 r.rows

end Result

end SqlMapper.Scripted
