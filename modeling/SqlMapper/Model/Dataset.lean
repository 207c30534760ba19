import SqlMapper.Database.Executor

/-!
# Datasets

A table with clauses that its statements have. Building a dataset changes nothing in the database; its
operations send one statement each.

* `Dataset.filter`: conditions are joined by AND.
* `Dataset.all`, `Dataset.first`, `Dataset.insert`, `Dataset.update`, `Dataset.delete`: operations
  through any executor.
-/

namespace SqlMapper

/-- A table and the clauses of its statements. -/
structure Dataset where
  table : String
  clauses : Clauses
deriving DecidableEq

namespace Dataset

/-! ## Building -/

/-- All rows of a table (`Dataset.new`). -/
def ofTable (table : String) : Dataset := ⟨table, .none⟩

/-- Only the given fields. -/
def select (d : Dataset) (fields : List String) : Dataset :=
  { d with clauses := { d.clauses with select? := some fields } }

/-- Only rows that fulfil one more condition. -/
def filter (d : Dataset) (condition : String) : Dataset :=
  let added := "(" ++ condition ++ ")"
  let all := match d.clauses.filter? with
    | some before => before ++ " AND " ++ added
    | none => added
  { d with clauses := { d.clauses with filter? := some all } }

/-- Only rows with the given value in a column. -/
def whereEq (d : Dataset) (column : String) (value : Value) : Dataset :=
  d.filter (Adapter.dialect.equalityCondition column value)

/-- Rows in the order of the given field expressions. -/
def order (d : Dataset) (fields : List String) : Dataset :=
  { d with clauses := { d.clauses with order? := some fields } }

/-- At most the given number of rows. -/
def limit (d : Dataset) (n : UInt64) : Dataset :=
  { d with clauses := { d.clauses with limit? := some n } }

/-! ## Statements -/

def selectSql (d : Dataset) : String := Adapter.dialect.selectSql d.table d.clauses

/-- The statement for the first row, whatever limit the dataset has. -/
def firstSql (d : Dataset) : String :=
  Adapter.dialect.selectSql d.table (d.clauses.overlay (.limited 1))

def insertSql (d : Dataset) (values : Record) : String := Adapter.dialect.insertSql d.table values

def updateSql (d : Dataset) (values : Record) (overrides : Option Clauses) : String :=
  Adapter.dialect.updateSql d.table values d.clauses overrides

def deleteSql (d : Dataset) : String := Adapter.dialect.deleteSql d.table d.clauses

/-! ## Operations -/

variable {n : Type → Type} [Monad n] (x : Executor n)

/-- All rows (`Dataset.all_in`). -/
def all (d : Dataset) : n (List Record) := x.fetchAll d.selectSql

/-- The first row (`Dataset.first_in`). -/
def first (d : Dataset) : n (Option Record) := do
  return (← x.fetchAll d.firstSql).head?

/-- Inserts a row; the answer is the key that the server generated (`Dataset.insert_in`). -/
def insert (d : Dataset) (values : Record) : n (Option UInt64) := do
  return (← x.execute (d.insertSql values)).insertId?

/-- Updates the rows; the answer is their number (`Dataset.update_in`). -/
def update (d : Dataset) (values : Record) (overrides : Option Clauses) : n UInt64 := do
  return (← x.execute (d.updateSql values overrides)).affected

/-- Deletes the rows; the answer is their number (`Dataset.delete_in`). -/
def delete (d : Dataset) : n UInt64 := do
  return (← x.execute d.deleteSql).affected

/-- Gives every row to `onRow`, which carries a state and may refuse one. -/
def each {m : Type → Type} [Monad m] [Backend m] {σ : Type} (d : Dataset) (state : σ)
    (onRow : σ → Record → σ × Except Error Unit) : Task m (σ × Except Error Nat) :=
  Adapter.query d.selectSql false state onRow

end Dataset

end SqlMapper
