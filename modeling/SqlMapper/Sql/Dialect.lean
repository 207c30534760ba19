import SqlMapper.Sql.FieldExpr
import SqlMapper.Sql.Literal

/-!
# Dialects

Where databases differ in the SQL that they take: how names and values are written, how a row without
values is inserted, and which clauses an update and a table definition may have.

* `Dialect.portable`: plain SQL.
* `Dialect.mysql`: backtick names, backslash escapes, numbers for truth values, ordered and limited
  updates, storage options.
-/

namespace SqlMapper

/-- What a database's SQL looks like (`SqlDialect`). -/
structure Dialect where
  name : String
  /-- A table or column name. -/
  quoteIdentifier : String → String
  /-- A field expression of a select list or an order. -/
  fieldName : String → String
  /-- A value. -/
  literal : Value → String
  /-- What follows the table when a row without values is inserted. -/
  emptyRow : String
  /-- Whether an update may have an order and a limit. -/
  limitsUpdates : Bool
  /-- Whether a table definition may name an engine and a character set. -/
  hasTableOptions : Bool

namespace Dialect

/-- A name in backticks (`MySqlDialect.quote_identifier`). Backticks inside are not escaped. -/
def backticked (name : String) : String := String.ofList ('`' :: name.toList ++ ['`'])

/-- A field expression with its column in backticks (`MySqlDialect.field_name`). -/
def backtickedField (field : String) : String :=
  String.ofList ((Sql.FieldExpr.ofText field.toList).render fun s => '`' :: s ++ ['`'])

/-- Plain SQL. -/
def portable : Dialect where
  name := "portable"
  quoteIdentifier := id
  fieldName := id
  literal := Sql.literal
  emptyRow := "DEFAULT VALUES"
  limitsUpdates := false
  hasTableOptions := false

/-- The SQL of MySQL and MariaDB (`MySqlDialect`). -/
def mysql : Dialect where
  name := "mysql"
  quoteIdentifier := backticked
  fieldName := backtickedField
  literal := Sql.escapingLiteral
  emptyRow := "() VALUES ()"
  limitsUpdates := true
  hasTableOptions := true

end Dialect

end SqlMapper
