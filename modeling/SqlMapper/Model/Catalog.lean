import SqlMapper.Model.Entity

/-!
# The catalog of entity types

Entity types under their names. A type may be named in several ways: as `Post`, `post` or `posts`. Every
registration makes a type of its own, which is told from others by a serial number even if it looks the
same.

* `Catalog.register`, `Catalog.define`: put a type under its name.
* `Catalog.getOrRegister`: the type under a name, made if there is none.
* `Catalog.resolve`: the type that a reference leads to.
-/

namespace SqlMapper

/-- A type as it was registered. -/
structure Registered where
  serial : Nat
  entity : EntityType
deriving DecidableEq

/-- The registered types (`ModelCatalog`). -/
structure Catalog where
  inflector : Inflector
  entries : List (String × Registered)
  next : Nat

/-- A way to refer to a type: by one of its names, or by itself. -/
inductive EntityRef where
  | named (name : String)
  | direct (entity : EntityType)
deriving DecidableEq

namespace Catalog

/-- No type is registered (`ModelCatalog.with_inflector`). -/
def empty (inflector : Inflector) : Catalog := ⟨inflector, [], 0⟩

/-- The type under exactly that name (`ModelCatalog.lookup`). -/
def lookup (c : Catalog) (name : String) : Option Registered := c.entries.lookup name

/-- Entries with `r` under `name`, in the place of what was there. -/
def putEntry (name : String) (r : Registered) :
    List (String × Registered) → List (String × Registered)
  | [] => [(name, r)]
  | (k, old) :: rest => if k = name then (k, r) :: rest else (k, old) :: putEntry name r rest

/-- Puts a type under a name. -/
def put (c : Catalog) (name : String) (entity : EntityType) : Registered × Catalog :=
  let r : Registered := ⟨c.next, entity⟩
  (r, { c with entries := putEntry name r c.entries, next := c.next + 1 })

/-- Registers a type under its name, in the place of one that was there (`ModelCatalog.register`). -/
def register (c : Catalog) (entity : EntityType) : Registered × Catalog := c.put entity.name entity

/-- Registers a type with the table and the key that its name suggests (`ModelCatalog.define`). -/
def define (c : Catalog) (name : String) : Registered × Catalog :=
  c.register (.ofTable name (c.inflector.tableize name))

/-- The type under a name, or else `build` registered under it (`ModelCatalog.get_or_register_with`). The
    flag says whether it was made. -/
def getOrRegister (c : Catalog) (name : String) (build : EntityType) :
    Registered × Bool × Catalog :=
  match c.lookup name with
  | some r => (r, false, c)
  | none =>
    let (r, c) := c.put name build
    (r, true, c)

/-- The type that a reference leads to (`ModelCatalog.resolve`). -/
def resolve (c : Catalog) : EntityRef → Except Error EntityType
  | .direct entity => .ok entity
  | .named name =>
    let typeName := c.inflector.classify name
    match c.lookup typeName with
    | some r => .ok r.entity
    | none => .error (.unknownEntity typeName name)

/-- The number of types (`ModelCatalog.len`). -/
def size (c : Catalog) : Nat := c.entries.length

end Catalog

end SqlMapper
