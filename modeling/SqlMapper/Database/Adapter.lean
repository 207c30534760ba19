import SqlMapper.Database.Backend
import SqlMapper.Sql.Statement

/-!
# The adapter

Single operations on the database. Each checks out a connection, uses it for itself alone and gives it
back however it ends. Statements are logged before they are sent; the listing of tables is not.

* `Adapter.holding`: an operation on a connection of its own.
* `Adapter.execute`, `Adapter.query`, `Adapter.fetchAll`, `Adapter.listTables`: the operations.
* `Adapter.tableExists`, `Adapter.createTable`, `Adapter.dropTable`: operations on tables.
-/

namespace SqlMapper.Adapter

variable {m : Type → Type} [Monad m] [Backend m] {α : Type}

/-- The dialect of every statement. -/
def dialect : Dialect := .mysql

/-! ## Connections -/

/-- Runs `body` on a connection of its own, which is given back however `body` ends. -/
def holding (body : ConnectionId → Task m α) : Task m α := ExceptT.mk do
  match ← (Backend.acquire : Task m ConnectionId).run with
  | .error stop => return .error stop
  | .ok conn =>
    let result ← (body conn).run
    Backend.release conn false
    return result

/-- Logs a statement and runs it on a connection. -/
def executeOn (conn : ConnectionId) (sql : String) : Task m Outcome := do
  (Backend.log sql : m Unit)
  Backend.execute conn sql

/-- Logs a statement and starts its result on a connection; `read` makes fetches, if it makes any, and
    says which ones it left. -/
def queryOn (conn : ConnectionId) (sql : String) (fetches : Bool)
    (read : RowStream → α × RowStream) : Task m α := do
  (Backend.log sql : m Unit)
  let (answer, left) := read (← Backend.query conn sql fetches)
  if fetches then (Backend.abandon conn left : m Unit)
  return answer

/-- All records of a statement's result. -/
def fetchAllOn (conn : ConnectionId) (sql : String) : Task m (List Record) := do
  Task.ofExcept (← queryOn conn sql true (Decoder.start false).collect)

/-! ## Statements -/

/-- Runs a statement that returns no rows. -/
def execute (sql : String) : Task m Outcome := holding fun conn => executeOn conn sql

/-- Gives every record of a result to `onRow`, which carries a state and may refuse one. The answer is
    the last state with the number of records, or with the error that ended the result. -/
def query {σ : Type} (sql : String) (qualified : Bool) (state : σ)
    (onRow : σ → Record → σ × Except Error Unit) : Task m (σ × Except Error Nat) :=
  holding fun conn => queryOn conn sql true ((Decoder.start qualified).forEach onRow state)

/-- All records of a statement's result. -/
def fetchAll (sql : String) : Task m (List Record) := holding fun conn => fetchAllOn conn sql

/-! ## Tables -/

/-- The names of the tables. -/
def listTables : Task m (List String) := holding fun conn => Backend.listTables conn

/-- Whether a table of that name is listed. -/
def tableExists (name : String) : Task m Bool := do
  return (← listTables).contains name

def createTable (schema : TableSchema) : Task m Unit := do
  let _ ← execute (dialect.createTableSql schema)

def dropTable (name : String) : Task m Unit := do
  let _ ← execute (dialect.dropTableSql name)

/-! ## Description -/

/-- A line that describes an adapter (`Adapter.fmt`). -/
def describe (openTransactions : Nat) (logs : Bool) : String :=
  "Adapter \x7b dialect: " ++ Text.quoted dialect.name ++ ", active_transactions: " ++
    Nat.repr openTransactions ++ ", sql_log: SqlLog \x7b enabled: " ++
    (if logs then "true" else "false") ++ " \x7d \x7d"

end SqlMapper.Adapter
