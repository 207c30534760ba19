import Mathlib.Data.List.Perm.Basic
import SqlMapper.Model.Dataset

/-!
# Which rows the statements of a dataset act on

A dataset reads, updates and deletes under one set of clauses. Reading and updating choose the same rows.
Deleting leaves out order and limit, so it may remove rows that were not read.

* `RowChoice`: the clauses that choose rows, and how a statement ends with them.
* `TableServer.chosen`: the rows that a server chooses by them.
* `delete_chooses_read_rows_iff`: deleting removes the rows that reading returns if there is no limit.
-/

namespace SqlMapper

/-! ## Specification -/

/-- The clauses of a statement that choose its rows. -/
structure RowChoice where
  condition? : Option String
  ordering? : Option (List String)
  limit? : Option UInt64
deriving DecidableEq

namespace RowChoice

/-- The clauses at the end of a statement. -/
def text (c : RowChoice) : String :=
  c.condition?.elim "" (" WHERE " ++ ·) ++
    c.ordering?.elim "" (" ORDER BY " ++ Dialect.mysql.fieldList ·) ++
    c.limit?.elim "" (" LIMIT " ++ Nat.repr ·.toNat)

/-- All rows that fulfil the condition, in any order. -/
def unlimited (c : RowChoice) : RowChoice := { c with ordering? := none, limit? := none }

end RowChoice

namespace Clauses

/-- The rows that clauses choose. -/
def rows (c : Clauses) : RowChoice := ⟨c.condition?, c.ordering?, c.limit?⟩

/-- The clauses of a call, if there are any, laid over those of a dataset. -/
def laidOver (c : Clauses) (overrides : Option Clauses) : Clauses := overrides.elim c c.overlay

end Clauses

/-- What a dataset says about its rows. A condition or an order that is empty says nothing. -/
def Dataset.choice (d : Dataset) : RowChoice :=
  ⟨d.clauses.condition?, d.clauses.ordering?, d.clauses.limit?⟩

/-- What a server makes of conditions and orders. -/
structure TableServer (Row : Type) where
  fulfils : String → Row → Bool
  /-- The rows in an order. Where the statement asks for none, the server has its own. -/
  arrange : Option (List String) → List Row → List Row
  arrange_perm : ∀ ordering? rows, (arrange ordering? rows).Perm rows

namespace TableServer

variable {Row : Type} (v : TableServer Row)

/-- The rows that fulfil a condition, in an order. -/
def matching (condition? : Option String) (ordering? : Option (List String)) (rows : List Row) :
    List Row :=
  v.arrange ordering? (rows.filter fun row => condition?.all (v.fulfils · row))

/-- The rows of a table that a statement acts on: the first ones of those that match. -/
def chosen (c : RowChoice) (rows : List Row) : List Row :=
  let found := v.matching c.condition? c.ordering? rows
  c.limit?.elim found fun n => found.take n.toNat

/-- A server that takes every row to fulfil every condition, and leaves the rows as they are stored. -/
def lenient (Row : Type) : TableServer Row where
  fulfils _ _ := true
  arrange _ rows := rows
  arrange_perm _ _ := .refl _

/-! ## Chosen rows -/

/-- Another order brings up the same rows. -/
theorem matching_perm (condition? : Option String) (o o' : Option (List String)) (rows : List Row) :
    (v.matching condition? o rows).Perm (v.matching condition? o' rows) :=
  (v.arrange_perm _ _).trans (v.arrange_perm _ _).symm

theorem chosen_lenient (c : RowChoice) (rows : List Row) :
    (lenient Row).chosen c rows = c.limit?.elim rows fun n => rows.take n.toNat := by
  cases h : c.condition? <;> simp [chosen, matching, lenient, h]

/-- Without order and limit the same rows are chosen, if there was no limit. Otherwise one row more than
    the limit tells the two apart. -/
theorem chosen_unlimited_perm_iff (c : RowChoice) :
    (∀ (Row : Type) (v : TableServer Row) (rows : List Row),
      (v.chosen c.unlimited rows).Perm (v.chosen c rows)) ↔ c.limit? = none := by
  constructor
  · intro same
    cases h : c.limit? with
    | none => rfl
    | some n =>
      have counts := (same Unit (lenient Unit) (List.replicate (n.toNat + 1) ())).length_eq
      simp [chosen_lenient, RowChoice.unlimited, h] at counts
  · intro none_set Row v rows
    simpa [chosen, RowChoice.unlimited, none_set] using v.matching_perm c.condition? none c.ordering? rows

end TableServer

/-! ## The text of the clauses -/

namespace Dialect

theorem whereClause_eq (c : Clauses) : whereClause c = c.condition?.elim "" (" WHERE " ++ ·) := by
  unfold whereClause; cases c.condition? <;> rfl

theorem orderClause_eq (x : Dialect) (c : Clauses) :
    x.orderClause c = c.ordering?.elim "" (" ORDER BY " ++ x.fieldList ·) := by
  unfold orderClause; cases c.ordering? <;> rfl

theorem limitClause_eq (c : Clauses) :
    limitClause c = c.limit?.elim "" (" LIMIT " ++ Nat.repr ·.toNat) := by
  unfold limitClause; cases c.limit? <;> rfl

theorem updateSql_eq (table : String) (values : Record) (c : Clauses) (overrides : Option Clauses) :
    mysql.updateSql table values c overrides =
      "UPDATE " ++ backticked table ++ " SET " ++ mysql.assignments values ++
        (c.laidOver overrides).rows.text := by
  cases overrides <;>
  · simp only [updateSql, whereClause_eq, orderClause_eq, limitClause_eq, RowChoice.text, Clauses.rows,
      Clauses.laidOver, Option.elim_none, Option.elim_some, String.append_assoc]
    rfl

end Dialect

/-- Leaving out order and limit changes the text whenever one of them is there. -/
theorem RowChoice.text_unlimited_iff (c : RowChoice) :
    c.unlimited.text = c.text ↔ c.ordering? = none ∧ c.limit? = none := by
  obtain ⟨condition?, ordering?, limit?⟩ := c
  rcases ordering? with _ | fields <;> rcases limit? with _ | n <;>
    simp [text, unlimited, String.ext_iff]

namespace Dataset

variable (d : Dataset)

theorem selectSql_eq : d.selectSql =
    "SELECT " ++ Dialect.mysql.fieldList (d.clauses.select?.getD []) ++ " FROM " ++
      Dialect.backticked d.table ++ d.choice.text := by
  simp only [selectSql, Adapter.dialect, Dialect.selectSql, Dialect.whereClause_eq,
    Dialect.orderClause_eq, Dialect.limitClause_eq, RowChoice.text, choice, String.append_assoc]
  rfl

theorem updateSql_eq (values : Record) : d.updateSql values none =
    "UPDATE " ++ Dialect.backticked d.table ++ " SET " ++ Dialect.mysql.assignments values ++
      d.choice.text :=
  Dialect.updateSql_eq d.table values d.clauses none

theorem deleteSql_eq : d.deleteSql =
    "DELETE FROM " ++ Dialect.backticked d.table ++ d.choice.unlimited.text := by
  simp only [deleteSql, Adapter.dialect, Dialect.deleteSql, Dialect.whereClause_eq, RowChoice.text,
    choice, RowChoice.unlimited, String.append_assoc, Option.elim_none, String.append_empty]
  rfl

/-! ## The same rows -/

/-- **Deleting removes what reading returns.** The statements of a dataset that read and update its rows
    end with the same clauses, for every chain of calls that built it; the one that deletes leaves out
    order and limit. So it ends like the others if there is neither, and it acts on the same rows, on
    every server and table, if there is no limit. -/
theorem delete_chooses_read_rows_iff (values : Record) :
    (d.selectSql = "SELECT " ++ Dialect.mysql.fieldList (d.clauses.select?.getD []) ++ " FROM " ++
        Dialect.backticked d.table ++ d.choice.text ∧
      d.updateSql values none = "UPDATE " ++ Dialect.backticked d.table ++ " SET " ++
        Dialect.mysql.assignments values ++ d.choice.text ∧
      d.deleteSql = "DELETE FROM " ++ Dialect.backticked d.table ++ d.choice.unlimited.text) ∧
    (d.choice.unlimited.text = d.choice.text ↔ d.choice.ordering? = none ∧ d.choice.limit? = none) ∧
    ((∀ (Row : Type) (v : TableServer Row) (rows : List Row),
        (v.chosen d.choice.unlimited rows).Perm (v.chosen d.choice rows)) ↔ d.choice.limit? = none) :=
  ⟨⟨d.selectSql_eq, d.updateSql_eq values, d.deleteSql_eq⟩, d.choice.text_unlimited_iff,
    TableServer.chosen_unlimited_perm_iff d.choice⟩

/-- A dataset of one row deletes the whole table. -/
theorem delete_of_limit_one :
    let d := (ofTable "posts").limit 1
    d.selectSql = "SELECT * FROM `posts` LIMIT 1" ∧ d.deleteSql = "DELETE FROM `posts`" ∧
      (TableServer.lenient Nat).chosen d.choice [1, 2] = [1] ∧
      (TableServer.lenient Nat).chosen d.choice.unlimited [1, 2] = [1, 2] := by
  decide +kernel

end Dataset

end SqlMapper
