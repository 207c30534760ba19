import SqlMapper.Client.Pool
import SqlMapper.Database.Transaction

/-!
# Programs on a pool

Calls of the library on a pool of one connection, one after the other, with what each of them yields.

* `Call`, `Inner`: calls on the pool, and inside a transaction.
* `run`: what the calls of a program yield.
-/

namespace SqlMapper.Client

/-- A call inside a transaction. -/
inductive Inner where
  | execute (sql : String)
  | fetchAll (sql : String)
  | query (sql : String) (limit? : Option Nat)
  | listTables
  | fail (e : Error)

/-- A call on the pool. -/
inductive Call where
  | execute (sql : String)
  | fetchAll (sql : String)
  | query (sql : String)
  | listTables
  | tableExists (name : String)
  | serverVersion
  | close
  | transaction (calls : List Inner)

/-- What a call yields. -/
inductive Yield where
  | outcome (o : Outcome)
  | records (l : List Record)
  | page (rows : List Record) (columns : List Column)
  | names (l : List String)
  | flag (b : Bool)

/-- What a call on the pool comes to. -/
inductive Report where
  | plain (r : Except Error Yield)
  /-- The records that came before the end or the error. -/
  | visited (rows : List Record) (result : Except Error Nat)
  | version (s? : Option String)
  | closed
  /-- What the calls inside came to, and how the transaction ended. -/
  | transaction (inner : List (Except Error Yield)) (result : Except Error Unit)

/-- Computations on a pool, with what the calls inside a transaction came to. -/
abbrev P := StateT (List (Except Error Yield)) (StateM Pool)

/-- The result of a task that neither panics nor is cancelled. -/
def settle {α : Type} (r : Except Stop α) : Except Error α :=
  match r with
  | .ok a => .ok a
  | .error (.failed e) => .error e
  | .error _ => .error (.internal "the task was given up")

/-- A call inside a transaction. -/
def Inner.run : Inner → Transaction.Block P Yield
  | execute sql => return .outcome (← Transaction.execute sql)
  | fetchAll sql => return .records (← Transaction.fetchAll sql)
  | query sql limit? => do
    let (rows, columns) ← Transaction.fetchUpTo sql true limit?
    return .page rows columns
  | listTables => return .names (← Transaction.listTables)
  | fail e => throw (.failed e)

/-- Keeps what a call inside a transaction came to. -/
def keep (r : Except Error Yield) : Transaction.Block P Unit :=
  Transaction.lift (ExceptT.lift (modify (· ++ [r])))

/-- Calls inside a transaction, up to the first error. -/
def runInner : List Inner → Transaction.Block P Unit
  | [] => return
  | call :: rest => do
    let result ← tryCatch (Except.ok <$> call.run) fun stop => pure (Except.error stop)
    keep (settle result)
    match result with
    | .ok _ => runInner rest
    | .error stop => throw stop

/-- Keeps every record. -/
def keepRecord (rows : List Record) (r : Record) : List Record × Except Error Unit :=
  (rows ++ [r], .ok ())

/-- A call on the pool. -/
def Call.run : Call → StateM Pool Report
  | execute sql => do
    return .plain ((settle (← (Adapter.execute sql : Task (StateM Pool) _).run)).map .outcome)
  | fetchAll sql => do
    return .plain ((settle (← (Adapter.fetchAll sql : Task (StateM Pool) _).run)).map .records)
  | query sql => do
    match ← (Adapter.query sql true [] keepRecord : Task (StateM Pool) _).run with
    | .ok (rows, result) => return .visited rows result
    | .error stop => return .visited [] (settle (.error stop))
  | listTables => do
    return .plain ((settle (← (Adapter.listTables : Task (StateM Pool) _).run)).map .names)
  | tableExists name => do
    return .plain ((settle (← (Adapter.tableExists name : Task (StateM Pool) _).run)).map .flag)
  | serverVersion => return .version (← Pool.serverVersion)
  | close => do
    modify Pool.close
    return .closed
  | transaction calls => do
    let (result, inner) ← ((Transaction.run (runInner calls) : Task P Unit).run).run []
    return .transaction inner (settle result)

/-- Opens a pool and makes calls on it: what they come to, and the statements sent; or the error of
    opening it. -/
def run (r : Responder) (calls : List Call) :
    Except Error (List Report × List (ConnectionId × String)) := do
  let pool ← Pool.open? r
  let (reports, pool) := (calls.mapM Call.run).run pool
  return (reports, pool.sent)

end SqlMapper.Client
