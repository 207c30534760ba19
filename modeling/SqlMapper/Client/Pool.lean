import SqlMapper.Client.Column
import SqlMapper.Client.Error
import SqlMapper.Database.Adapter
import SqlMapper.Database.Registry

/-!
# A pool of one connection

Surroundings with a client and a server that answers by statement. The pool opens one connection at a
time and uses it again, unless it was given back to be closed; connections are told apart by their
order. What is left of a result is read before the next statement is sent: an error in it is the error
of that statement, and closes a connection that is given back.

* `Responder`: what the server answers.
* `Pool`: the state of the pool, with all statements sent.
* `Pool.open?`: opens a pool.
-/

namespace SqlMapper.Client

/-- The server's answer to a statement. -/
inductive Answer where
  | done (affected insertId : UInt64)
  | refused (fault : ServerFault)
  /-- Rows, and an error in the place of their end. -/
  | rows (columns : List Announced) (rows : List RawRow) (fault? : Option ServerFault)

/-- What the server answers. -/
structure Responder where
  /-- Answers by the whole text of a statement; the first one counts. -/
  answers : List (String × Answer)
  version? : Option String
  /-- The error that it sends to whoever connects. -/
  refusal? : Option ServerFault

namespace Responder

/-- The answer to a statement: nothing is affected if none is given. -/
def answer (r : Responder) (sql : String) : Answer := (r.answers.lookup sql).getD (.done 0 0)

end Responder

/-- The library's error for one that the server sends. -/
def serverError (fault : ServerFault) : Error := .ofClient (.server fault)

/-- The error for a column of a type that the client does not know. -/
def unknownType (c : Announced) : Error :=
  let digits := Nat.toDigits 16 c.typeNumber
  .ofClient (.protocol ("unknown column type 0x" ++
    String.ofList (List.replicate (2 - digits.length) '0' ++ digits)))

namespace Answer

/-- The fields for announced columns. -/
def fields : List Announced → Except Error (List Field)
  | [] => .ok []
  | c :: rest =>
    match c.field? with
    | some f => (fields rest).map (f :: ·)
    | none => .error (unknownType c)

/-- The fetches of an answer (`MySqlRows.fetch_row`). -/
def stream : Answer → RowStream
  | done _ _ => []
  | refused fault => [⟨.error (serverError fault), []⟩]
  | rows columns body fault? =>
    match fields columns with
    | .error e => [⟨.error e, []⟩]
    | .ok fields =>
      body.map (fun row => ⟨.ok (some row), fields⟩) ++
        (fault?.map fun fault => ⟨.error (serverError fault), fields⟩).toList

end Answer

/-- The first error in a stream. -/
def firstError? (s : RowStream) : Option Error :=
  s.findSome? fun f =>
    match f.answer with
    | .error e => some e
    | .ok _ => none

/-- The state of a pool. -/
structure Pool where
  responder : Responder
  /-- The number of connections opened. -/
  opened : Nat
  /-- Whether the last of them is still open. -/
  connected : Bool
  closed : Bool
  /-- An error in what is left of the last result. -/
  owed? : Option Error
  /-- Statements sent, each with its connection. -/
  sent : List (ConnectionId × String)
  registry : Registry

namespace Pool

/-- Opens a pool with its first connection (`connect`). -/
def open? (r : Responder) : Except Error Pool :=
  match r.refusal? with
  | some fault => .error (.connectFailed (.server fault))
  | none => .ok ⟨r, 1, true, false, none, [], .empty⟩

/-- Closes the pool. -/
def close (p : Pool) : Pool := { p with closed := true, connected := false }

/-- Checks out the connection, and opens one if there is none (`MySqlPool.acquire`). -/
def acquire (p : Pool) : Except Stop ConnectionId × Pool :=
  if p.closed then (.error (.failed (.ofClient .poolClosed)), p)
  else if p.connected then (.ok p.opened, p)
  else (.ok (p.opened + 1), { p with opened := p.opened + 1, connected := true })

/-- Takes the connection back (`PoolConnection.discard`). -/
def release (discard : Bool) (p : Pool) : Pool :=
  { p with connected := p.connected && !discard && p.owed?.isNone, owed? := none }

/-- Sends a statement, unless there is an error in what is left of the last result. -/
def send (conn : ConnectionId) (sql : String) (p : Pool) : Except Error Answer × Pool :=
  match p.owed? with
  | some e => (.error e, { p with owed? := none })
  | none => (.ok (p.responder.answer sql), { p with sent := p.sent ++ [(conn, sql)] })

/-- Runs a statement to its end; rows are read and dropped (`PoolConnection.execute`). -/
def execute (conn : ConnectionId) (sql : String) (p : Pool) : Except Stop Outcome × Pool :=
  match p.send conn sql with
  | (.error e, p) => (.error (.failed e), p)
  | (.ok (.done affected insertId), p) =>
    (.ok ⟨affected, if insertId = 0 then none else some insertId⟩, p)
  | (.ok answer, p) =>
    match firstError? answer.stream with
    | some e => (.error (.failed e), p)
    | none => (.ok ⟨0, none⟩, p)

/-- Starts a statement's result (`PoolConnection.query`). The statement is sent with the first fetch. -/
def query (conn : ConnectionId) (sql : String) (fetches : Bool) (p : Pool) : RowStream × Pool :=
  if fetches then
    match p.send conn sql with
    | (.error e, p) => ([⟨.error e, []⟩], p)
    | (.ok answer, p) => (answer.stream, p)
  else ([], p)

/-- Lists the tables: the first value of every row, unless it is null (`PoolConnection.list_tables`). -/
def listTables (conn : ConnectionId) (p : Pool) : Except Stop (List String) × Pool :=
  let (stream, p) := p.query conn "SHOW TABLES" true
  match firstError? stream with
  | some e => (.error (.failed e), p)
  | none =>
    let name? (f : Fetch) : Option String :=
      match f.answer with
      | .ok (some (some b :: _)) => some (Bytes.decodeLossy b)
      | _ => none
    (.ok (stream.filterMap name?), p)

instance : Backend (StateM Pool) where
  acquire := ExceptT.mk (modifyGet acquire)
  execute conn sql := ExceptT.mk (modifyGet (execute conn sql))
  query conn sql fetches :=
    ExceptT.mk (modifyGet fun p => let (s, p) := p.query conn sql fetches; (.ok s, p))
  abandon _ left := modify fun p => { p with owed? := firstError? left }
  listTables conn := ExceptT.mk (modifyGet (listTables conn))
  release _ discard := modify (release discard)
  enter := modifyGet fun p => let (id, r) := p.registry.enter; (id, { p with registry := r })
  leave id := modify fun p => { p with registry := p.registry.leave id }
  log _ := pure ()

/-- The version that the server reports, if it can be had (`server_version`). -/
def serverVersion : StateM Pool (Option String) := do
  let ask : Task (StateM Pool) (Option String) := Adapter.holding fun _ => do
    return (← get).responder.version?
  match ← ask.run with
  | .ok version? => return version?
  | .error _ => return none

end Pool

end SqlMapper.Client
