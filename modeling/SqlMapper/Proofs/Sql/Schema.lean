import SqlMapper.Proofs.Json.Reading
import SqlMapper.Sql.Schema

/-!
# Table schemas read back

The JSON text of a table schema is read back as the schema it was written for, with names and types of any
characters. An empty primary key and an unset engine or character set have no member in the text, and come
back as they were.

* `TableSchema.memberNames`: the members of a written schema.
* `ColumnSpec.reads_reader`, `TableSchema.reads_reader`: a column and a schema are read back.
* `TableSchema.ofJson_toJson`: the round trip.
-/

namespace SqlMapper

open Json.Reader

/-! ## Columns -/

theorem ColumnSpec.reads_reader (c : ColumnSpec) : Reads reader (Json.compact c.toJson) c := by
  refine reads_object (.cons rfl ((reads_string c.name).map _) (.cons rfl ((reads_string c.sqlType).map _)
    (.cons rfl ((reads_bool c.nullable).map _) .nil))) ?_
  rfl

theorem reads_columns (l : List ColumnSpec) :
    Reads (list ColumnSpec.reader) (Json.compact (.array (l.map (·.toJson)))) l :=
  reads_list ColumnSpec.reads_reader (fun _ => isElement_object _) l

/-! ## Schemas -/

namespace TableSchema

/-- What has been read at the end of a written schema. -/
def fields (t : TableSchema) : Fields :=
  ⟨some t.name, some t.columns, if t.primaryKey = [] then none else some t.primaryKey,
    t.engine?.map some, t.charset?.map some⟩

theorem reads_reader (t : TableSchema) : Reads reader (Json.compact t.toJson) t := by
  refine reads_object (.append (b := { t.fields with charset := none })
    (.append (b := { t.fields with engine := none, charset := none })
      (.append (b := ⟨some t.name, some t.columns, none, none, none⟩) ?front ?key) ?engine)
    (c := t.fields) ?charset) ?finished
  case front =>
    exact .cons rfl ((reads_string t.name).map _) (.cons rfl ((reads_columns t.columns).map _) .nil)
  case key =>
    unfold fields
    split_ifs with h
    · exact .nil
    · exact .cons rfl ((reads_strings t.primaryKey).map _) .nil
  case engine =>
    unfold fields
    cases t.engine? with
    | none => exact .nil
    | some engine => exact .cons rfl (((reads_string engine).optional (by decide) (by decide)).map _) .nil
  case charset =>
    unfold fields
    cases t.charset? with
    | none => exact .nil
    | some charset =>
      exact .cons rfl (((reads_string charset).optional (by decide) (by decide)).map _) .nil
  case finished =>
    have key : t.fields.primaryKey.getD [] = t.primaryKey := by
      unfold fields
      split_ifs with h
      · exact h.symm
      · rfl
    have option : ∀ o : Option String, (o.map some).getD none = o := by
      intro o
      cases o with
      | none => rfl
      | some x => rfl
    show some (TableSchema.mk t.name t.columns (t.fields.primaryKey.getD [])
      ((t.engine?.map some).getD none) ((t.charset?.map some).getD none)) = some t
    rw [key, option, option]

/-- The members of a written schema, in order: an empty primary key and an unset engine or character set
    have none. -/
def memberNames (t : TableSchema) : List String :=
  ["name", "columns"] ++ (if t.primaryKey = [] then [] else ["primary_key"]) ++
    (if t.engine? = none then [] else ["engine"]) ++ (if t.charset? = none then [] else ["charset"])

theorem map_fst_optMember (name : String) (o : Option String) :
    (Json.optMember name (o.map .string)).map Prod.fst = if o = none then [] else [name] := by
  cases o with
  | none => rfl
  | some x => rfl

theorem exists_toJson (t : TableSchema) :
    ∃ members, t.toJson = .object members ∧ members.map Prod.fst = t.memberNames := by
  refine ⟨_, rfl, ?_⟩
  have key : (if t.primaryKey = [] then [] else [("primary_key", Json.strings t.primaryKey)]).map Prod.fst =
      if t.primaryKey = [] then [] else ["primary_key"] := by
    split_ifs
    · rfl
    · rfl
  rw [List.map_append, List.map_append, List.map_append, key, map_fst_optMember, map_fst_optMember]
  rfl

/-- **A schema is read back.** Whatever characters stand in its names, types and options, the JSON text of a
    table schema is read as that schema, although an empty primary key and an unset engine or character set
    have no member in the text. -/
theorem ofJson_toJson (t : TableSchema) :
    ofJson t.toJson.text = .ok t ∧
      ∃ members, t.toJson = .object members ∧ members.map Prod.fst = t.memberNames := by
  refine ⟨?_, t.exists_toJson⟩
  rw [ofJson, Json.text, String.toList_ofList]
  exact whole_of_reads t.reads_reader

end TableSchema

end SqlMapper
