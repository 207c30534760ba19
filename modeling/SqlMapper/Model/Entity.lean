import SqlMapper.Database.Executor
import SqlMapper.Inflector.Basic

/-!
# Entity types and instances

An entity type maps records to a table. An instance of it is saved once; then it holds the key that the
server generated, if its type has a single key column that was left open.

* `Instance.save`: inserts an instance through any executor.
* `Instance.withKey`: an instance with its generated key.
-/

namespace SqlMapper

/-- A column of a primary key (`PrimaryKeyColumn`). -/
structure KeyColumn where
  name : String
  sqlType : String
deriving DecidableEq

/-- A type of records kept in a table. -/
structure EntityType where
  name : String
  table : String
  /-- In order; there may be several columns, or none. -/
  primaryKey : List KeyColumn
deriving DecidableEq

namespace EntityType

/-- A type with the default primary key (`EntityType.new`). -/
def ofTable (name table : String) : EntityType := ⟨name, table, [⟨"id", "integer"⟩]⟩

def keyNames (e : EntityType) : List String := e.primaryKey.map (·.name)

/-- The JSON object for a type. -/
def toJson (e : EntityType) : Json :=
  .object [("name", .string e.name), ("table_name", .string e.table),
    ("primary_key", .array (e.primaryKey.map fun k =>
      .object [("name", .string k.name), ("sql_type", .string k.sqlType)]))]

end EntityType

/-- A row of an entity type, saved or not. -/
structure Instance where
  entity : EntityType
  values : Record
  persisted : Bool
deriving DecidableEq

namespace Instance

/-- An instance that is not saved (`Instance.new`). -/
def fresh (entity : EntityType) (values : Record) : Instance := ⟨entity, values, false⟩

/-- The values with the generated key put into a single key column that is absent or null. -/
def withKey (entity : EntityType) (values : Record) (id? : Option UInt64) : Record :=
  match entity.primaryKey, id? with
  | [key], some id =>
    if ((values.get? key.name).map Value.isNull).getD true then
      values.insert key.name (.ofUnsigned id)
    else values
  | _, _ => values

/-- Inserts the instance as a row (`Instance.save_in`). -/
def save {n : Type → Type} [Monad n] [MonadExceptOf Stop n] (x : Executor n) (i : Instance) :
    n Instance := do
  if i.persisted then throw (.failed (.alreadySaved i.entity.name))
  let outcome ← x.execute (Adapter.dialect.insertSql i.entity.table i.values)
  return ⟨i.entity, withKey i.entity i.values outcome.insertId?, true⟩

end Instance

end SqlMapper
