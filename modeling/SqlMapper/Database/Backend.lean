import SqlMapper.Row.Decoder

/-!
# What the library asks of its surroundings

A computation on the database ends with a value or stops: with an error, because its code panicked, or
because it was cancelled while it waited. The surroundings supply the connections, run the statements,
keep the marks of open transactions and take the log of statements; every request that waits for an
answer is a place where a computation may be cancelled.

* `Task`: computations that may stop.
* `Backend`: the requests.
-/

namespace SqlMapper

/-- Why a computation ended without a value. -/
inductive Stop where
  /-- It met an error. -/
  | failed (e : Error)
  /-- Its own code broke off. -/
  | panicked
  /-- It was given up while it waited for an answer. -/
  | cancelled
deriving DecidableEq

/-- A computation in `m` that may stop. -/
abbrev Task (m : Type → Type) := ExceptT Stop m

/-- A connection, by the order in which connections were opened. -/
abbrev ConnectionId := Nat

/-- A transaction, by the order in which transactions were entered. -/
structure TransactionId where
  serial : Nat
deriving DecidableEq

/-- What a statement without rows brought about: the rows it affected, and the key that the server generated
    (`ExecOutcome`). -/
structure Outcome where
  affected : UInt64
  insertId? : Option UInt64
deriving DecidableEq

/-- The requests of the library (`Connection`). -/
class Backend (m : Type → Type) where
  /-- Checks out a connection for exclusive use. -/
  acquire : Task m ConnectionId
  /-- Runs a statement that returns no rows. -/
  execute : ConnectionId → String → Task m Outcome
  /-- Runs a statement that returns rows. An error of the statement comes with the first fetch; if no
      fetch will be made, the statement need not be sent. -/
  query : ConnectionId → String → (fetches : Bool) → Task m RowStream
  /-- Takes back the fetches of the last result on a connection that were not made. -/
  abandon : ConnectionId → RowStream → m Unit
  /-- The names of the tables. -/
  listTables : ConnectionId → Task m (List String)
  /-- Gives a connection back, to be closed if it is not fit for another use. -/
  release : ConnectionId → (discard : Bool) → m Unit
  /-- Marks a new transaction as open. -/
  enter : m TransactionId
  /-- Removes the mark of a transaction. -/
  leave : TransactionId → m Unit
  /-- Takes a statement that is about to be sent. -/
  log : String → m Unit

/-- The computation that only stops or yields a value. -/
def Task.ofExcept {m : Type → Type} [Monad m] {α : Type} (r : Except Error α) : Task m α :=
  ExceptT.mk (pure (r.mapError .failed))

/-- The same computation beside a state of its own. -/
def Task.inState {m : Type → Type} [Monad m] {σ α : Type} (t : Task m α) : Task (StateT σ m) α :=
  ExceptT.mk (StateT.lift t.run)

/-- A program may keep a state of its own beside its surroundings. -/
instance {m : Type → Type} [Monad m] [Backend m] {σ : Type} : Backend (StateT σ m) where
  acquire := Backend.acquire.inState
  execute conn sql := (Backend.execute conn sql).inState
  query conn sql fetches := (Backend.query conn sql fetches).inState
  abandon conn left := StateT.lift (Backend.abandon conn left)
  listTables conn := (Backend.listTables conn).inState
  release conn discard := StateT.lift (Backend.release conn discard)
  enter := StateT.lift Backend.enter
  leave id := StateT.lift (Backend.leave id)
  log sql := StateT.lift (Backend.log sql)

end SqlMapper
