import SqlMapper.Json.Basic

/-!
# Fields and columns

What the server reports for a field of a result, and the column that a decoded result has for it.
-/

namespace SqlMapper

/-- A field as the server reports it; some servers report no table (`FieldInfo`). -/
structure Field where
  name : String
  table? : Option String
  typeCode : UInt8
deriving DecidableEq

/-- A column of a result: a field and its place (`ColumnDescriptor`). -/
structure Column where
  name : String
  table? : Option String
  index : Nat
  typeCode : UInt8
deriving DecidableEq

namespace Column

/-- The columns for the fields of a result, from place `index` on (`RowDecoder.load_columns`). -/
def ofFields (index : Nat) : List Field → List Column
  | [] => []
  | f :: rest => ⟨f.name, f.table?, index, f.typeCode⟩ :: ofFields (index + 1) rest

/-- The record key of a column: its name, after the table's name and a dot if keys are qualified and a table
    is known (`ColumnDescriptor.key`). -/
def key (c : Column) (qualified : Bool) : String :=
  match c.table? with
  | some table => if qualified && table ≠ "" then table ++ "." ++ c.name else c.name
  | none => c.name

/-- The JSON object for a column. -/
def toJson (c : Column) : Json :=
  .object ([("name", .string c.name)] ++
    (match c.table? with
      | some table => [("table", .string table)]
      | none => []) ++
    [("index", Json.int c.index), ("type_code", Json.int c.typeCode.toNat)])

end Column

end SqlMapper
