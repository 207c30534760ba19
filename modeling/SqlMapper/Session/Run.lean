import SqlMapper.Session.Step

/-!
# Running a session

Steps at the top level use the adapter; an error of one does not end the session. Steps inside a
transaction go through the transaction where it offers what they need, and the first error that is not
caught ends the block. A block that panics or is cancelled ends the whole transaction.

* `perform`: an action, at the top level or inside a transaction.
* `runStep`, `runSteps`: steps inside a transaction.
* `run`: a whole session.
-/

namespace SqlMapper.Session

/-- What a session keeps beside the server. -/
structure State where
  catalog : Catalog
  instances : List (String × Instance)
  joins : List (String × JoinTable)
  /-- Whether statements are logged. -/
  logs : Bool
  trace : List Entry

/-- Session computations. -/
abbrev M := StateT State (StateM Scripted.Server)

/-- The state of the server. -/
def server : M Scripted.Server := StateT.lift get

/-- Changes the server. -/
def modifyServer (f : Scripted.Server → Scripted.Server) : M Unit := StateT.lift (modify f)

/-- A list of named things with one put in the place of its name. -/
def putNamed {α : Type} (name : String) (a : α) (l : List (String × α)) : List (String × α) :=
  (name, a) :: l.filter (·.1 ≠ name)

/-! ## Writing down -/

/-- Writes an entry, with the statements since the one before. -/
def note (path : List Nat) (ending : Ending) : M Unit := do
  let s ← server
  let entry : Entry := ⟨path, ending, s.sent, s.logged, s.pool, s.registry.count⟩
  modifyServer fun s => { s with sent := [], logged := [] }
  modify fun st => { st with trace := st.trace ++ [entry] }

/-! ## Places -/

/-- The place of a step: what it can reach there. -/
structure Place (n : Type → Type) where
  /-- A task of the adapter. -/
  task : {α : Type} → Task M α → n α
  executor : Executor n
  query : (sql : String) → (qualified : Bool) → (limit? : Option Nat) → n Reply
  listTables : n (List String)
  /-- The depth of the transaction and its identifier, inside one. -/
  transaction? : n (Option (UInt32 × TransactionId))
  /-- Breaks off, inside a transaction. -/
  breakOff? : Stop → n (Option Reply)

/-- Keeps every record, and refuses the one with the given number. -/
def keepUpTo (limit : Nat) (rows : List Record) (r : Record) : List Record × Except Error Unit :=
  let rows := rows ++ [r]
  (rows, if rows.length = limit then .error (.invalidInput "stop") else .ok ())

/-- A query with a callback that keeps the records. Its own errors are part of what it yields. -/
def visit (sql : String) (qualified : Bool) (limit? : Option Nat) : Task M Reply := ExceptT.mk do
  match ← (Adapter.query sql qualified [] (keepUpTo (limit?.getD 0)) : Task M _).run with
  | .ok (rows, result) => return .ok (.visited rows result)
  | .error (.failed e) => return .ok (.visited [] (.error e))
  | .error stop => return .error stop

/-- Outside all transactions. -/
def Place.top : Place (Task M) where
  task t := t
  executor := .adapter
  query := visit
  listTables := Adapter.listTables
  transaction? := pure none
  breakOff? _ := pure none

/-- Inside a transaction, but not through it. -/
def Place.outside : Place (Transaction.Block M) where
  task := Transaction.lift
  executor := .outside
  query sql qualified limit? := Transaction.lift (visit sql qualified limit?)
  listTables := Transaction.lift Adapter.listTables
  transaction? := pure none
  breakOff? stop := throw stop

/-- Inside a transaction and through it. -/
def Place.inside : Place (Transaction.Block M) where
  task := Transaction.lift
  executor := .transaction
  query sql qualified limit? := do
    let (rows, columns) ← Transaction.fetchUpTo sql qualified limit?
    return .page rows columns
  listTables := Transaction.listTables
  transaction? := do
    let depth ← Transaction.depth
    let h ← read
    return some (depth, h.id)
  breakOff? stop := throw stop

/-! ## Actions -/

/-- The server with its script changed. -/
def ScriptChange.apply (c : ScriptChange) (s : Scripted.Server) : Scripted.Server :=
  let script : Scripted.Script := {
    failures := c.failures?.getD s.script.failures
    outcomes := c.outcomes?.getD s.script.outcomes
    results := c.results.reverse ++ s.script.results
    poolError? := c.poolError?.getD s.script.poolError? }
  let tables := (c.addTables.foldl Scripted.Server.addTable s.tables).filter (· ∉ c.removeTables)
  { s with script, tables }

/-- What the catalog is asked for, if a type that has to be registered is. -/
def TypeRef.entityRef? (c : Catalog) : TypeRef → Option EntityRef
  | named name => some (.named name)
  | registered name => (c.lookup name).map fun r => .direct r.entity
  | direct entity => some (.direct entity)

section Perform

variable {n : Type → Type} [Monad n] [MonadExceptOf Stop n] (p : Place n)

/-- A computation of the session at a place. -/
def Place.session {α : Type} (x : M α) : n α := p.task (ExceptT.lift x)

/-- An error at a place. -/
def Place.orFail {α : Type} (r : Except Error α) : n α := p.task (Task.ofExcept r)

/-- An operation of a dataset. -/
def performDataset (d : Dataset) : DatasetCall → n Reply
  | .clauses => return .clauses d
  | .statements values overrides =>
    return .statements d.selectSql (d.insertSql values) (d.updateSql values overrides) d.deleteSql
  | .all => return .records (← d.all p.executor)
  | .first => return ((← d.first p.executor).map Reply.record).getD .nothing
  | .each => do
    let (rows, result) ← p.task (d.each [] (keepUpTo 0))
    let count ← p.orFail result
    return .visited rows (.ok count)
  | .insert values =>
    return ((← d.insert p.executor values).map fun id => Reply.number id.toNat).getD .nothing
  | .update values overrides => return .number (← d.update p.executor values overrides).toNat
  | .delete => return .number (← d.delete p.executor).toNat

/-- The type of a join table's rows; the join table kept under `id` keeps it. -/
def joinTypeOf (id : String) (j : JoinTable) : M Registered := do
  let st ← get
  let (r, j, catalog) := j.joinType st.catalog
  set { st with catalog, joins := putNamed id j st.joins }
  return r

/-- An operation of a join table. -/
def performJoin (id : String) (j : JoinTable) : JoinCall → n Reply
  | .joinType => do
    let r ← p.session (joinTypeOf id j)
    let st ← p.session get
    return .joinType r.entity ((st.catalog.lookup r.entity.name).map (·.serial) = some r.serial)
  | .create values => do
    return .created (← JoinTable.create p.executor (p.session (joinTypeOf id j)) values)
  | .exists? => do
    let i := (← p.session get).catalog.inflector
    return .flag (← p.task (j.exists? i))
  | .createTable => do
    let i := (← p.session get).catalog.inflector
    return .flag (← p.task (j.createTable i))
  | .recreateTable => do
    let i := (← p.session get).catalog.inflector
    return .flag (← p.task (j.recreateTable i))

/-- An action at a place; none if it asks for nothing known. -/
def perform : Action → n (Option Reply)
  | .execute sql => return some (.outcome (← p.executor.execute sql))
  | .executeInsert sql => do
    let o ← p.executor.execute sql
    return some ((o.insertId?.map fun id => Reply.number id.toNat).getD .nothing)
  | .executeAffected sql => return some (.number (← p.executor.execute sql).affected.toNat)
  | .fetchAll sql => return some (.records (← p.executor.fetchAll sql))
  | .query sql qualified limit? => return some (← p.query sql qualified limit?)
  | .listTables => return some (.names (← p.listTables))
  | .tableExists name => return some (.flag (← p.task (Adapter.tableExists name)))
  | .createTable schema => do
    p.task (Adapter.createTable schema)
    return some .nothing
  | .dropTable name => do
    p.task (Adapter.dropTable name)
    return some .nothing
  | .describe => do
    let s ← p.session server
    let st ← p.session get
    return some (.text (Adapter.describe s.registry.count st.logs))
  | .activity => do
    let r := (← p.session server).registry
    return some (.activity r.count r.opened.length (r.opened.all fun id => r.containsText id.text))
  | .transactionInfo => do
    match ← p.transaction? with
    | none => return some .nothing
    | some (depth, id) =>
      return some (.transactionInfo depth.toNat ((← p.session server).registry.contains id))
  | .fail e => throw (.failed e)
  | .panic => p.breakOff? .panicked
  | .cancel => p.breakOff? .cancelled
  | .script change => do
    p.session (modifyServer change.apply)
    return some .nothing
  | .dataset d call => some <$> performDataset p d call
  | .define name => do
    let st ← p.session get
    let (r, catalog) := st.catalog.define name
    p.session (set { st with catalog })
    return some (.entity r.entity)
  | .register entity => do
    let st ← p.session get
    let (r, catalog) := st.catalog.register entity
    p.session (set { st with catalog })
    return some (.entity r.entity)
  | .getOrRegister key entity => do
    let st ← p.session get
    let (r, created, catalog) := st.catalog.getOrRegister key entity
    p.session (set { st with catalog })
    return some (.registered r.entity created)
  | .lookup name => do
    let c := (← p.session get).catalog
    return some (((c.lookup name).map fun r => Reply.entity r.entity).getD .nothing)
  | .resolve ref => do
    let c := (← p.session get).catalog
    match ref.entityRef? c with
    | none => return none
    | some ref => return some (.entity (← p.orFail (c.resolve ref)))
  | .catalogSize => do
    return some (.size (← p.session get).catalog.size)
  | .create id typeName values => do
    let st ← p.session get
    match st.catalog.lookup typeName with
    | none => return none
    | some r =>
      let i := Instance.fresh r.entity values
      p.session (set { st with instances := putNamed id i st.instances })
      return some (.created i)
  | .get id column => do
    match (← p.session get).instances.lookup id with
    | none => return none
    | some i => return some (.attribute i (i.values.get? column))
  | .save id => do
    match (← p.session get).instances.lookup id with
    | none => return none
    | some i =>
      let i ← i.save p.executor
      p.session (modify fun st => { st with instances := putNamed id i st.instances })
      return some (.created i)
  | .join id source destination options => do
    let c := (← p.session get).catalog
    match source.entityRef? c, destination.entityRef? c with
    | some source, some destination =>
      let source ← p.orFail (c.resolve source)
      let destination ← p.orFail (c.resolve destination)
      let j := JoinTable.between source destination options
      p.session (modify fun st => { st with joins := putNamed id j st.joins })
      return some (.joinTable c.inflector j)
    | _, _ => return none
  | .joinCall id call => do
    match (← p.session get).joins.lookup id with
    | none => return none
    | some j => some <$> performJoin p id j call
  | .unknown => return none

end Perform

/-! ## Steps -/

/-- The place of a step inside a transaction. -/
def Manner.place (m : Manner) : Place (Transaction.Block M) := if m.outside then .outside else .inside

/-- How a step ended that stopped with an error or yielded something. -/
def endingOf : Option Reply → Ending
  | some reply => .done reply
  | none => .refused

/-- A step inside a transaction with its entry; the answer says whether it ended without an error. A
    panic and a cancellation pass without an entry. -/
def conclude (path : List Nat) (m : Manner) (x : Transaction.Block M (Option Reply)) :
    Transaction.Block M Bool := do
  let result ← tryCatch (Except.ok <$> x) fun stop => pure (Except.error stop)
  match result with
  | .ok reply? =>
    m.place.session (note path (endingOf reply?))
    return true
  | .error (.failed e) =>
    m.place.session (note path (.failed e))
    if m.caught then return false else throw (.failed e)
  | .error stop => throw stop

/-- What a new transaction yields: the number of its steps that ended without an error, or how it was
    broken off. -/
def newTransaction (block : Transaction.Block M Nat) : Task M Reply := ExceptT.mk do
  match ← (Transaction.run block).run with
  | .ok count => return .ok (.number count)
  | .error .panicked => return .ok (.ended true)
  | .error .cancelled => return .ok (.ended false)
  | .error (.failed e) => return .error (.failed e)

mutual

/-- A step inside a transaction. -/
def runStep (path : List Nat) : Step → Transaction.Block M Bool
  | .act action m => conclude path m (perform m.place action)
  | .transaction steps m =>
    conclude path m <| if m.outside then
      some <$> Transaction.lift (newTransaction (runSteps path 0 steps))
    else (some ∘ Reply.number) <$> Transaction.nested (runSteps path 0 steps)

/-- The steps of a block, the first of which has the given number; the answer is the number of those
    that ended without an error. -/
def runSteps (path : List Nat) (number : Nat) : List Step → Transaction.Block M Nat
  | [] => return 0
  | step :: rest => do
    let good ← runStep (path ++ [number]) step
    let count ← runSteps path (number + 1) rest
    return count + if good then 1 else 0

end

/-- A step at the top level, with its entry. -/
def runTop (path : List Nat) (step : Step) : M Unit := do
  let task : Task M (Option Reply) := match step with
    | .act action _ => perform Place.top action
    | .transaction steps _ => some <$> newTransaction (runSteps path 0 steps)
  match ← task.run with
  | .ok reply? => note path (endingOf reply?)
  | .error (.failed e) => note path (.failed e)
  | .error _ => note path .refused

/-- The steps of a session, the first of which has the given number. -/
def runFrom (number : Nat) : List Step → M Unit
  | [] => return
  | step :: rest => do
    runTop [number] step
    runFrom (number + 1) rest

/-- Runs a session on a fresh server with the given script: its entries, and the tables at its end. -/
def run (inflector : Inflector) (logs : Bool) (script : ScriptChange) (steps : List Step) :
    List Entry × List String :=
  let start := script.apply (.start .empty [])
  let ((_, state), server) := ((runFrom 0 steps).run ⟨.empty inflector, [], [], logs, []⟩).run start
  (state.trace, server.tableNames)

end SqlMapper.Session
