import SqlMapper.Record
import SqlMapper.Sql.Clauses
import SqlMapper.Sql.Dialect
import SqlMapper.Sql.Schema

/-!
# Statements

The statements that the library sends, rendered for a dialect.

* `selectSql`, `insertSql`, `updateSql`, `deleteSql`: rows of a table.
* `createTableSql`, `dropTableSql`: tables.
* `equalityCondition`: a column compared with a value.
-/

namespace SqlMapper

/-- Texts with a comma and a blank between. -/
def commaList : List String → String
  | [] => ""
  | [x] => x
  | x :: y :: rest => x ++ ", " ++ commaList (y :: rest)

namespace Dialect

variable (d : Dialect)

/-! ## Clauses -/

/-- A list of field expressions; the empty one stands for all fields (`SqlDialect.field_list`). -/
def fieldList (fields : List String) : String :=
  if fields = [] then "*" else commaList (fields.map d.fieldName)

/-- The condition, if there is one (`generic.push_where`). -/
def whereClause (c : Clauses) : String :=
  match c.condition? with
  | some condition => " WHERE " ++ condition
  | none => ""

/-- The order, if there is one. -/
def orderClause (c : Clauses) : String :=
  match c.ordering? with
  | some fields => " ORDER BY " ++ d.fieldList fields
  | none => ""

/-- The limit, if there is one. -/
def limitClause (c : Clauses) : String :=
  match c.limit? with
  | some n => " LIMIT " ++ Nat.repr n.toNat
  | none => ""

/-- A column compared with a value; nothing equals null, so a null is tested for
    (`SqlDialect.equality_condition`). -/
def equalityCondition (column : String) (value : Value) : String :=
  match value with
  | .null => d.quoteIdentifier column ++ " IS NULL"
  | v => d.quoteIdentifier column ++ " = " ++ d.literal v

/-! ## Rows -/

/-- The statement that fetches rows (`generic.select_sql`). -/
def selectSql (table : String) (c : Clauses) : String :=
  "SELECT " ++ d.fieldList (c.select?.getD []) ++ " FROM " ++ d.quoteIdentifier table ++
    whereClause c ++ d.orderClause c ++ limitClause c

/-- The statement that inserts a row (`generic.insert_sql`). -/
def insertSql (table : String) (values : Record) : String :=
  if values.isEmpty then "INSERT INTO " ++ d.quoteIdentifier table ++ " " ++ d.emptyRow
  else
    "INSERT INTO " ++ d.quoteIdentifier table ++ " (" ++
      commaList (values.keys.map d.quoteIdentifier) ++ ") VALUES (" ++
      commaList (values.pairs.map fun p => d.literal p.2) ++ ")"

/-- The assignments of an update. -/
def assignments (values : Record) : String :=
  commaList (values.pairs.map fun p => d.quoteIdentifier p.1 ++ "=" ++ d.literal p.2)

/-- The statement that updates rows (`generic.update_sql`). Order and limit stand only where the dialect has
    them. -/
def updateSql (table : String) (values : Record) (c : Clauses) (overrides : Option Clauses) :
    String :=
  let c := match overrides with
    | some upper => c.overlay upper
    | none => c
  "UPDATE " ++ d.quoteIdentifier table ++ " SET " ++ d.assignments values ++ whereClause c ++
    (if d.limitsUpdates then d.orderClause c ++ limitClause c else "")

/-- The statement that deletes rows (`generic.delete_sql`). -/
def deleteSql (table : String) (c : Clauses) : String :=
  "DELETE FROM " ++ d.quoteIdentifier table ++ whereClause c

/-! ## Tables -/

/-- The definition of a column. -/
def columnDefinition (c : ColumnSpec) : String :=
  d.quoteIdentifier c.name ++ " " ++ c.sqlType ++ (if c.nullable then "" else " NOT NULL")

/-- The storage options of a table, where the dialect has them. -/
def tableOptions (t : TableSchema) : String :=
  if d.hasTableOptions then
    (match t.engine? with
      | some engine => " ENGINE=" ++ engine
      | none => "") ++
    (match t.charset? with
      | some charset => " DEFAULT CHARSET=" ++ charset
      | none => "")
  else ""

/-- The statement that creates a table (`generic.create_table_sql`). -/
def createTableSql (t : TableSchema) : String :=
  let key := if t.primaryKey = [] then []
    else ["PRIMARY KEY (" ++ commaList (t.primaryKey.map d.quoteIdentifier) ++ ")"]
  "CREATE TABLE " ++ d.quoteIdentifier t.name ++ " (" ++
    commaList (t.columns.map d.columnDefinition ++ key) ++ ")" ++ d.tableOptions t

/-- The statement that drops a table (`SqlDialect.drop_table_sql`). -/
def dropTableSql (table : String) : String := "DROP TABLE " ++ d.quoteIdentifier table

end Dialect

end SqlMapper
