import SqlMapper.Model.Catalog

/-!
# Join tables

The table of a many-to-many relationship. Its name is made of the names of both tables, and its columns
are the keys of both, each named for its table; together they are its primary key. Its rows are instances
of a type named for both participants, which is registered when it is first needed.

* `JoinTable.derivedName`, `JoinTable.derivedKeys`: the names.
* `JoinTable.schema`: the definition of the table.
* `JoinTable.joinType`: the type of its rows.
* `JoinTable.createTable`, `JoinTable.recreateTable`: the table in the database.
-/

namespace SqlMapper

/-- The storage of a join table (`JoinTableOptions`). -/
structure StorageOptions where
  engine? : Option String
  charset? : Option String
deriving DecidableEq

/-- The JSON object for storage options. -/
def StorageOptions.toJson (o : StorageOptions) : Json :=
  .object [("engine", Json.optString o.engine?), ("charset", Json.optString o.charset?)]

/-- A join table between two types. Once the type of its rows is known it is kept. -/
structure JoinTable where
  source : EntityType
  destination : EntityType
  options : StorageOptions
  kept? : Option Registered
deriving DecidableEq

namespace JoinTable

/-! ## Names -/

/-- The plural names of both tables, in order, with an underscore between (`derived_name`). -/
def derivedName (i : Inflector) (a b : EntityType) : String :=
  let x := i.pluralize a.table
  let y := i.pluralize b.table
  if y < x then y ++ "_" ++ x else x ++ "_" ++ y

/-- The columns that refer to a type: the singular name of its table before each of its keys
    (`derived_keys`). -/
def derivedKeys (i : Inflector) (e : EntityType) : List String :=
  e.primaryKey.map fun k => i.singularize e.table ++ "_" ++ k.name

/-- The columns that refer to a type, with the types of its keys. -/
def keyColumnsOf (i : Inflector) (e : EntityType) : List KeyColumn :=
  (derivedKeys i e).zipWith (fun name k => ⟨name, k.sqlType⟩) e.primaryKey

variable (i : Inflector) (j : JoinTable)

/-- A join table before its first use (`JoinTable.new`). -/
def between (source destination : EntityType) (options : StorageOptions) : JoinTable :=
  ⟨source, destination, options, none⟩

def name : String := derivedName i j.source j.destination

/-- The columns, those of the source first. -/
def keyColumns : List KeyColumn := keyColumnsOf i j.source ++ keyColumnsOf i j.destination

/-- The names of the columns. -/
def keys : List String := (j.keyColumns i).map (·.name)

/-- The definition of the table. -/
def schema : TableSchema where
  name := j.name i
  columns := (j.keyColumns i).map fun k => ⟨k.name, k.sqlType, false⟩
  primaryKey := j.keys i
  engine? := j.options.engine?
  charset? := j.options.charset?

/-! ## The type of the rows -/

/-- The name of the type of the rows. -/
def typeName : String := j.source.name ++ j.destination.name

/-- The type that is registered for the rows if there is none of that name. -/
def builtType : EntityType := ⟨j.typeName, j.name i, j.keyColumns i⟩

/-- The type of the rows: the one kept, or the one registered under its name, made if needed
    (`JoinTable.join_class`). -/
def joinType (c : Catalog) : Registered × JoinTable × Catalog :=
  match j.kept? with
  | some r => (r, j, c)
  | none =>
    let (r, _, c) := c.getOrRegister j.typeName (j.builtType c.inflector)
    (r, { j with kept? := some r }, c)

/-- Inserts a row (`JoinTable.create_in`). The type of the rows is looked up first, whether or not the row
    can be inserted. -/
def create {n : Type → Type} [Monad n] [MonadExceptOf Stop n] (x : Executor n)
    (joinType : n Registered) (values : Record) : n Instance := do
  (Instance.fresh (← joinType).entity values).save x

/-! ## The table in the database -/

section Table

variable {m : Type → Type} [Monad m] [Backend m]

/-- Whether the table exists. -/
def exists? : Task m Bool := Adapter.tableExists (j.name i)

/-- Creates the table unless it exists; the answer says whether it was created. -/
def createTable : Task m Bool := do
  if ← j.exists? i then return false
  Adapter.createTable (j.schema i)
  return true

/-- Creates the table anew; one that exists is dropped, with its rows. -/
def recreateTable : Task m Bool := do
  if ← j.exists? i then Adapter.dropTable (j.name i)
  Adapter.createTable (j.schema i)
  return true

end Table

/-! ## Description -/

/-- An optional text as a description shows it. -/
def describeOption : Option String → String
  | some s => "Some(" ++ Text.quoted s ++ ")"
  | none => "None"

/-- A line that describes a join table (`JoinTable.fmt`). -/
def describe : String :=
  "JoinTable \x7b name: " ++ Text.quoted (j.name i) ++ ", source: " ++ Text.quoted j.source.name ++
    ", destination: " ++ Text.quoted j.destination.name ++ ", options: JoinTableOptions \x7b engine: " ++
    describeOption j.options.engine? ++ ", charset: " ++ describeOption j.options.charset? ++
    " \x7d \x7d"

end JoinTable

end SqlMapper
