import SqlMapper.Column.Basic
import SqlMapper.Column.FieldType

/-!
# Columns as the server announces them

A column comes with the number of its type, with flags and with a display size; the client makes a type
name of them.

* `Announced.typeName?`: the type name.
* `Announced.field?`: the field that the library sees.
-/

namespace SqlMapper

/-- A column as the server announces it. -/
structure Announced where
  name : String
  typeNumber : Nat
  flags : Nat
  size : Nat
deriving DecidableEq

namespace Announced

/-- Whether one of the flags is set. -/
def has (c : Announced) (flag : Nat) : Bool := c.flags / flag % 2 == 1

/-- A name with a word for numbers without a sign. -/
def signed (c : Announced) (name : String) : String :=
  if c.has 32 then name ++ " UNSIGNED" else name

/-- One of two names: of bytes, or of text. -/
def binary (c : Announced) (bytes text : String) : String := if c.has 128 then bytes else text

/-- The type name, if the number is one of a type. -/
def typeName? (c : Announced) : Option String :=
  match c.typeNumber with
  | 0 | 246 => some "DECIMAL"
  | 1 => some (if c.size = 1 then "BOOLEAN" else c.signed "TINYINT")
  | 2 => some (c.signed "SMALLINT")
  | 3 => some (c.signed "INT")
  | 4 => some "FLOAT"
  | 5 => some "DOUBLE"
  | 6 => some "NULL"
  | 7 => some "TIMESTAMP"
  | 8 => some (c.signed "BIGINT")
  | 9 => some (c.signed "MEDIUMINT")
  | 10 => some "DATE"
  | 11 => some "TIME"
  | 12 => some "DATETIME"
  | 13 => some "YEAR"
  | 15 | 253 => some (c.binary "VARBINARY" "VARCHAR")
  | 16 => some "BIT"
  | 245 => some "JSON"
  | 247 => some "ENUM"
  | 248 => some "SET"
  | 249 => some (c.binary "TINYBLOB" "TINYTEXT")
  | 250 => some (c.binary "MEDIUMBLOB" "MEDIUMTEXT")
  | 251 => some (c.binary "LONGBLOB" "LONGTEXT")
  | 252 => some (c.binary "BLOB" "TEXT")
  | 254 => some (c.binary "BINARY" (if c.has 256 then "ENUM" else "CHAR"))
  | 255 => some "GEOMETRY"
  | _ => none

/-- The field that the library sees; the client reports no table (`field_info`). -/
def field? (c : Announced) : Option Field :=
  c.typeName?.map fun type => ⟨c.name, none, (FieldType.ofTypeName type).code⟩

end Announced

end SqlMapper
