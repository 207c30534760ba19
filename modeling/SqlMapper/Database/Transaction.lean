import SqlMapper.Database.Adapter

/-!
# Transactions

A transaction keeps one connection from its BEGIN to its end. The block that runs inside it has a handle
to that connection, and a block inside the block joins the transaction: it sends no BEGIN of its own.
The transaction is marked as open until it ends, however it ends; and a connection on which a
transaction may still be open is not used again.

* `Transaction.Block`: computations inside a transaction.
* `Transaction.nested`: a block inside a block.
* `Transaction.run`: a whole transaction.
-/

namespace SqlMapper.Transaction

variable {m : Type → Type} [Monad m] [Backend m] {α : Type}

/-! ## Inside a transaction -/

/-- What a block knows of its transaction (`Transaction`). -/
structure Handle where
  conn : ConnectionId
  id : TransactionId
deriving DecidableEq

/-- A computation inside a transaction. The number that it carries is the depth of nesting; it has 32 bits,
    and counts modulo 2^32. -/
abbrev Block (m : Type → Type) := ReaderT Handle (ExceptT Stop (StateT UInt32 m))

/-- A task as part of a block. -/
def lift (t : Task m α) : Block m α := fun _ => ExceptT.mk (StateT.lift t.run)

/-- The depth of nesting, 0 in the outermost block. -/
def depth : Block m UInt32 := fun _ => ExceptT.mk fun n => pure (.ok n, n)

/-- Runs a statement that returns no rows. -/
def execute (sql : String) : Block m Outcome := fun h => lift (Adapter.executeOn h.conn sql) h

/-- Starts a statement's result; `read` makes fetches, if it makes any, and says which ones it left. -/
def query (sql : String) (fetches : Bool) (read : RowStream → α × RowStream) : Block m α := fun h =>
  lift (Adapter.queryOn h.conn sql fetches read) h

/-- Reads at most `limit` records of a statement's result, or all of them, and the columns known then. -/
def fetchUpTo (sql : String) (qualified : Bool) (limit? : Option Nat) :
    Block m (List Record × List Column) := do
  let (records, d) ← query sql (limit? != some 0) fun s =>
    (Decoder.start qualified).upTo (limit?.getD (s.length + 1)) s
  match records with
  | .ok records => return (records, d.columns)
  | .error e => throw (.failed e)

/-- All records of a statement's result. -/
def fetchAll (sql : String) : Block m (List Record) := fun h =>
  lift (Adapter.fetchAllOn h.conn sql) h

/-- The names of the tables. -/
def listTables : Block m (List String) := fun h => lift (Backend.listTables h.conn) h

/-- A block inside the transaction (`Transaction.transaction`). Its depth is one more, until it ends with a
    value or an error. -/
def nested (body : Block m α) : Block m α := fun h => ExceptT.mk fun depth => do
  let (result, depth) ← (body h).run (depth + 1)
  match result with
  | .ok a => return (.ok a, depth - 1)
  | .error (.failed e) => return (.error (.failed e), depth - 1)
  | .error stop => return (.error stop, depth)

/-! ## A whole transaction -/

/-- Sends ROLLBACK for a transaction that ends with an error (`rollback`). The transaction stays open if that
    fails. -/
def rollback (conn : ConnectionId) (e : Error) : m (Except Stop α × Bool) := do
  match ← (Adapter.executeOn conn "ROLLBACK" : Task m Outcome).run with
  | .ok _ => return (.error (.failed e), false)
  | .error (.failed _) => return (.error (.failed e), true)
  | .error stop => return (.error stop, true)

/-- Ends a transaction after its block: COMMIT for a value and ROLLBACK for an error. An error of
    COMMIT is the transaction's error, and leads to ROLLBACK as well. The answer says also whether the
    transaction may still be open. -/
def conclude (conn : ConnectionId) : Except Stop α → m (Except Stop α × Bool)
  | .ok a => do
    match ← (Adapter.executeOn conn "COMMIT" : Task m Outcome).run with
    | .ok _ => return (.ok a, false)
    | .error (.failed e) => rollback conn e
    | .error stop => return (.error stop, true)
  | .error (.failed e) => rollback conn e
  | .error stop => return (.error stop, true)

/-- Runs `block` in a new transaction on a connection (`run_transaction`). The mark is set before BEGIN and
    removed at the end; the connection is given back after that, to be closed if the transaction may still be
    open. -/
def runOn (conn : ConnectionId) (block : Block m α) : m (Except Stop α) := do
  let id ← Backend.enter
  match ← (Adapter.executeOn conn "BEGIN" : Task m Outcome).run with
  | .error stop =>
    Backend.leave id
    Backend.release conn false
    return .error stop
  | .ok _ =>
    let (result, _) ← ((block ⟨conn, id⟩).run).run 0
    let (result, stillOpen) ← conclude conn result
    Backend.leave id
    Backend.release conn stillOpen
    return result

/-- Runs `block` in a new transaction (`Adapter.transaction`). -/
def run (block : Block m α) : Task m α := ExceptT.mk do
  match ← (Backend.acquire : Task m ConnectionId).run with
  | .error stop => return .error stop
  | .ok conn => runOn conn block

end SqlMapper.Transaction
