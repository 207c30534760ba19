import SqlMapper.Database.Registry
import SqlMapper.Database.Backend
import SqlMapper.Text.Blank
import SqlMapper.Text.Split

/-!
# A scripted server

Surroundings in memory: a script says which statements fail, what statements bring about and what
queries return; the server keeps a set of tables and writes down all that it is asked. Every connection
is new, and there is no limit to their number.

* `Script`: what the server is told to do.
* `Server`: its state, with everything that it has written down.
-/

namespace SqlMapper.Scripted

/-- What a server is told to do. Of several entries for a statement the first one counts. -/
structure Script where
  /-- Statements that fail, by a part of their text. -/
  failures : List (String × Error)
  /-- The outcomes of statements, by a part of their text. -/
  outcomes : List (String × Outcome)
  /-- The results of queries, by their whole text. -/
  results : List (String × RowStream)
  /-- No connection can be had. -/
  poolError? : Option Error

namespace Script

/-- Nothing fails, and no query returns rows. -/
def empty : Script := ⟨[], [], [], none⟩

/-- The entry of a list for a statement that contains its pattern. -/
def matching? {α : Type} (sql : String) (rules : List (String × α)) : Option α :=
  (rules.find? fun rule => Text.hasInfix rule.1.toList sql.toList).map (·.2)

/-- The error that a statement fails with. -/
def failure? (s : Script) (sql : String) : Option Error := matching? sql s.failures

/-- The failure of a statement if nothing else is said about it. -/
def defaultFailure (pattern : String) : Error :=
  .database ("scripted failure on '" ++ pattern ++ "'") (some "HY000") "none"

/-- The fetches of a query that does not fail. -/
def result (s : Script) (sql : String) : RowStream := (s.results.lookup sql).getD []

end Script

/-- How many connections were taken, given back, and closed on return. -/
structure PoolCount where
  acquired : Nat
  released : Nat
  discarded : Nat
deriving DecidableEq

/-- A server with all that it has written down. -/
structure Server where
  script : Script
  tables : List String
  /-- Statements sent, each with its connection. -/
  sent : List (ConnectionId × String)
  /-- Statements logged. -/
  logged : List String
  pool : PoolCount
  /-- The number of keys that were generated. -/
  keys : Nat
  registry : Registry

namespace Server

/-- A server before the first request. -/
def start (script : Script) (tables : List String) : Server :=
  ⟨script, tables, [], [], ⟨0, 0, 0⟩, 0, .empty⟩

/-! ## Tables -/

/-- The table that a statement names after its first words. -/
def tableAfter? (start sql : String) : Option String :=
  match Text.dropPrefix? start.toList sql.toList with
  | none => none
  | some rest =>
    match Text.firstWord rest with
    | [] => none
    | word =>
      let isTick (c : Char) : Bool := c == '`'
      some (String.ofList ((word.dropWhile isTick).reverse.dropWhile isTick).reverse)

/-- A set of tables with one more. -/
def addTable (tables : List String) (name : String) : List String :=
  if tables.contains name then tables else name :: tables

/-- The tables after a statement. -/
def tablesAfter (tables : List String) (sql : String) : List String :=
  match tableAfter? "CREATE TABLE " sql with
  | some name => addTable tables name
  | none =>
    match tableAfter? "DROP TABLE " sql with
    | some name => tables.filter (· ≠ name)
    | none => tables

/-- The names of the tables in order. -/
def tableNames (s : Server) : List String := s.tables.mergeSort fun x y => decide (x ≤ y)

/-! ## Requests -/

/-- Writes a statement down; the answer is the error that it fails with. -/
def record (conn : ConnectionId) (sql : String) (s : Server) : Option Error × Server :=
  (s.script.failure? sql, { s with sent := s.sent ++ [(conn, sql)] })

/-- The outcome of a statement that succeeds. If the script has none it affects one row, and an INSERT
    generates the next key. -/
def outcome (sql : String) (s : Server) : Outcome × Server :=
  match Script.matching? sql s.script.outcomes with
  | some o => (o, s)
  | none =>
    if "INSERT".toList.isPrefixOf sql.toList then
      (⟨1, some (UInt64.ofNat (s.keys + 1))⟩, { s with keys := s.keys + 1 })
    else (⟨1, none⟩, s)

/-- Takes a new connection. -/
def acquire (s : Server) : Except Stop ConnectionId × Server :=
  match s.script.poolError? with
  | some e => (.error (.failed e), s)
  | none =>
    (.ok (s.pool.acquired + 1),
      { s with pool := { s.pool with acquired := s.pool.acquired + 1 } })

/-- Runs a statement that returns no rows. -/
def execute (conn : ConnectionId) (sql : String) (s : Server) : Except Stop Outcome × Server :=
  match s.record conn sql with
  | (some e, s) => (.error (.failed e), s)
  | (none, s) =>
    let (o, s) := { s with tables := tablesAfter s.tables sql }.outcome sql
    (.ok o, s)

/-- Starts a query, which is written down even if no fetch is made. -/
def query (conn : ConnectionId) (sql : String) (s : Server) : RowStream × Server :=
  match s.record conn sql with
  | (some e, s) => ([⟨.error e, []⟩], s)
  | (none, s) => (s.script.result sql, s)

/-- Lists the tables. -/
def listTables (conn : ConnectionId) (s : Server) : Except Stop (List String) × Server :=
  match s.record conn "SHOW TABLES" with
  | (some e, s) => (.error (.failed e), s)
  | (none, s) => (.ok s.tableNames, s)

/-- Takes a connection back. -/
def release (discard : Bool) (s : Server) : Server :=
  { s with pool := { s.pool with
      released := s.pool.released + 1
      discarded := s.pool.discarded + if discard then 1 else 0 } }

instance : Backend (StateM Server) where
  acquire := ExceptT.mk (modifyGet acquire)
  execute conn sql := ExceptT.mk (modifyGet (execute conn sql))
  query conn sql _ :=
    ExceptT.mk (modifyGet fun s => let (stream, s) := s.query conn sql; (.ok stream, s))
  abandon _ _ := pure ()
  listTables conn := ExceptT.mk (modifyGet (listTables conn))
  release _ discard := modify (release discard)
  enter := modifyGet fun s => let (id, r) := s.registry.enter; (id, { s with registry := r })
  leave id := modify fun s => { s with registry := s.registry.leave id }
  log sql := modify fun s => { s with logged := s.logged ++ [sql] }

end Server

end SqlMapper.Scripted
