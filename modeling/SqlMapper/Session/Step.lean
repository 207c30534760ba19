import SqlMapper.Model.Dataset
import SqlMapper.Model.JoinTable
import SqlMapper.Scripted.Server

/-!
# Steps of a session

A session uses the whole library against a scripted server, one step after the other. This module says
what a step may be and what it may yield.

* `Action`, `Step`: what is done.
* `Reply`, `Ending`: what comes of it.
* `Entry`: what is written down when a step has ended.
-/

namespace SqlMapper.Session

/-! ## What is done -/

/-- A call that builds a dataset. -/
inductive Refinement where
  | select (fields : List String)
  | filter (condition : String)
  | whereEq (column : String) (value : Value)
  | order (fields : List String)
  | limit (n : UInt64)

/-- The dataset after a call. -/
def Refinement.apply (d : Dataset) : Refinement → Dataset
  | select fields => d.select fields
  | filter condition => d.filter condition
  | whereEq column value => d.whereEq column value
  | order fields => d.order fields
  | limit n => d.limit n

/-- An operation of a dataset. -/
inductive DatasetCall where
  | clauses
  | statements (values : Record) (overrides : Option Clauses)
  | all
  | first
  | each
  | insert (values : Record)
  | update (values : Record) (overrides : Option Clauses)
  | delete

/-- An operation of a join table. -/
inductive JoinCall where
  | joinType
  | create (values : Record)
  | exists?
  | createTable
  | recreateTable

/-- A way to refer to a type in a step. -/
inductive TypeRef where
  /-- By one of its names, as the catalog takes it. -/
  | named (name : String)
  /-- The type registered under exactly that name. -/
  | registered (name : String)
  /-- A type that is not registered. -/
  | direct (entity : EntityType)

/-- A change of the server's script. -/
structure ScriptChange where
  addTables : List String
  removeTables : List String
  failures? : Option (List (String × Error))
  outcomes? : Option (List (String × Outcome))
  /-- Results to add; a later one for the same statement wins. -/
  results : List (String × RowStream)
  /-- The new error of the pool, if it changes. -/
  poolError? : Option (Option Error)

/-- What a step does, save for transactions. -/
inductive Action where
  | execute (sql : String)
  | executeInsert (sql : String)
  | executeAffected (sql : String)
  | fetchAll (sql : String)
  | query (sql : String) (qualified : Bool) (limit? : Option Nat)
  | listTables
  | tableExists (name : String)
  | createTable (schema : TableSchema)
  | dropTable (name : String)
  | describe
  | activity
  | transactionInfo
  | fail (e : Error)
  | panic
  | cancel
  | script (change : ScriptChange)
  | dataset (d : Dataset) (call : DatasetCall)
  | define (name : String)
  | register (entity : EntityType)
  | getOrRegister (key : String) (entity : EntityType)
  | lookup (name : String)
  | resolve (ref : TypeRef)
  | catalogSize
  | create (id typeName : String) (values : Record)
  | get (id column : String)
  | save (id : String)
  | join (id : String) (source destination : TypeRef) (options : StorageOptions)
  | joinCall (id : String) (call : JoinCall)
  /-- A step that asks for nothing known. -/
  | unknown
deriving Inhabited

/-- How a step inside a transaction is taken: through the adapter and not the transaction, and with its
    error caught. -/
structure Manner where
  outside : Bool
  caught : Bool
deriving Inhabited

/-- A step: an action, or a transaction with steps of its own. -/
inductive Step where
  | act (action : Action) (manner : Manner)
  | transaction (steps : List Step) (manner : Manner)
deriving Inhabited

/-! ## What comes of it -/

/-- What a step yields. -/
inductive Reply where
  | nothing
  | flag (b : Bool)
  | number (n : Nat)
  | text (s : String)
  | names (l : List String)
  | outcome (o : Outcome)
  | records (l : List Record)
  | record (r : Record)
  /-- The records that a callback was given, and how the result ended. -/
  | visited (rows : List Record) (result : Except Error Nat)
  | page (rows : List Record) (columns : List Column)
  /-- The number of open transactions, the number of those listed, and whether all of them are open. -/
  | activity (count listed : Nat) (known : Bool)
  /-- The depth of nesting, and whether the transaction is marked as open. -/
  | transactionInfo (depth : Nat) (registered : Bool)
  /-- A transaction that came to no end of its own. -/
  | ended (panicked : Bool)
  | clauses (d : Dataset)
  | statements (select insert update delete : String)
  | entity (e : EntityType)
  | registered (e : EntityType) (created : Bool)
  | size (n : Nat)
  | created (i : Instance)
  | attribute (i : Instance) (value? : Option Value)
  | joinTable (inflector : Inflector) (j : JoinTable)
  | joinType (e : EntityType) (registered : Bool)

/-- How a step ended. -/
inductive Ending where
  | done (reply : Reply)
  | failed (e : Error)
  /-- The step asks for nothing known. -/
  | refused

/-- What is written down when a step has ended; statements are those since the entry before. -/
structure Entry where
  path : List Nat
  ending : Ending
  sent : List (ConnectionId × String)
  logged : List String
  pool : Scripted.PoolCount
  active : Nat

end SqlMapper.Session
