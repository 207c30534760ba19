import SqlMapper.Json.Reader
import SqlMapper.Json.Basic

/-!
# Table schemas

The definition of a table, and its form as a JSON object. An empty primary key and an unset engine or
character set are left out of the object; reading puts them back.

* `TableSchema.toJson`: the JSON object for a schema.
* `TableSchema.ofJson`: reads one, from an object or from an array of its parts.
-/

namespace SqlMapper

/-- A column of a table definition. -/
structure ColumnSpec where
  name : String
  sqlType : String
  nullable : Bool
deriving DecidableEq

/-- The definition of a table. -/
structure TableSchema where
  name : String
  columns : List ColumnSpec
  primaryKey : List String
  engine? : Option String
  charset? : Option String
deriving DecidableEq

/-! ## Writing -/

/-- The JSON object for a column. -/
def ColumnSpec.toJson (c : ColumnSpec) : Json :=
  .object [("name", .string c.name), ("sql_type", .string c.sqlType), ("nullable", .bool c.nullable)]

/-- A member that is left out if there is no value. -/
def Json.optMember (name : String) : Option Json → List (String × Json)
  | some j => [(name, j)]
  | none => []

/-- The JSON object for a schema. -/
def TableSchema.toJson (t : TableSchema) : Json :=
  .object
    ([("name", .string t.name), ("columns", .array (t.columns.map (·.toJson)))] ++
      (if t.primaryKey = [] then [] else [("primary_key", Json.strings t.primaryKey)]) ++
      Json.optMember "engine" (t.engine?.map .string) ++
      Json.optMember "charset" (t.charset?.map .string))

/-! ## Reading -/

open Json.Reader in
/-- A column from an object or from an array of its three parts. -/
def ColumnSpec.reader : Json.Reader ColumnSpec :=
  object (σ := Option String × Option String × Option Bool) (none, none, none)
    (fun (name, sqlType, nullable) member =>
      match member with
      | "name" => .once name string fun x => (some x, sqlType, nullable)
      | "sql_type" => .once sqlType string fun x => (name, some x, nullable)
      | "nullable" => .once nullable bool fun x => (name, sqlType, some x)
      | _ => .unknown)
    (fun (name, sqlType, nullable) => do return ⟨← name, ← sqlType, ← nullable⟩)
    (do return ⟨← item true string, ← item false string, ← item false bool⟩)

/-- The members of a schema that have been read. -/
structure TableSchema.Fields where
  name : Option String
  columns : Option (List ColumnSpec)
  primaryKey : Option (List String)
  engine : Option (Option String)
  charset : Option (Option String)

open Json.Reader in
/-- A schema from an object, where only name and columns have to be there, or from an array of all
    five parts. -/
def TableSchema.reader : Json.Reader TableSchema :=
  object (⟨none, none, none, none, none⟩ : TableSchema.Fields)
    (fun t member =>
      match member with
      | "name" => .once t.name string fun x => { t with name := some x }
      | "columns" => .once t.columns (list ColumnSpec.reader) fun x => { t with columns := some x }
      | "primary_key" =>
        .once t.primaryKey (list string) fun x => { t with primaryKey := some x }
      | "engine" => .once t.engine (optional string) fun x => { t with engine := some x }
      | "charset" => .once t.charset (optional string) fun x => { t with charset := some x }
      | _ => .unknown)
    (fun t => do
      return ⟨← t.name, ← t.columns, t.primaryKey.getD [], t.engine.getD none, t.charset.getD none⟩)
    (do
      return ⟨← item true string, ← item false (list ColumnSpec.reader), ← item false (list string),
        ← item false (optional string), ← item false (optional string)⟩)

/-- Reads the JSON text of a schema. -/
def TableSchema.ofJson (text : String) : Except Json.ReadError TableSchema :=
  Json.Reader.whole TableSchema.reader text.toList

end SqlMapper
