import SqlMapper.Model.Dataset
import SqlMapper.Model.JoinTable
import SqlMapper.Proofs.Connection.Hold
import SqlMapper.Proofs.Transaction.Composed

/-!
# Operations and their connections

The operations of an adapter, with those of datasets, instances and join tables, and what each of them
does with connections.

* `Operation`: the operations.
* `Operation.Discards`: when an operation gives a connection back to be closed.
* `Operation.stepwise`: all operations but transactions run statement by statement.
* `exists_holds`: an operation is a sequence of holds.
-/

namespace SqlMapper

/-! ## Operations -/

/-- An operation through an adapter. What stands in the block of a transaction are the calls through
    its handle; a call of the adapter from inside the block is an operation of its own. -/
inductive Operation : Type → Type 1 where
  | execute (sql : String) : Operation Outcome
  | executeInsert (sql : String) : Operation (Option UInt64)
  | executeAffected (sql : String) : Operation UInt64
  | query {σ : Type} (sql : String) (qualified : Bool) (state : σ)
    (onRow : σ → Record → σ × Except Error Unit) : Operation (σ × Except Error Nat)
  | fetchAll (sql : String) : Operation (List Record)
  | listTables : Operation (List String)
  | tableExists (name : String) : Operation Bool
  | createTable (schema : TableSchema) : Operation Unit
  | dropTable (name : String) : Operation Unit
  | transaction {α : Type} (code : Transaction.Code α) : Operation α
  | all (d : Dataset) : Operation (List Record)
  | first (d : Dataset) : Operation (Option Record)
  | each {σ : Type} (d : Dataset) (state : σ) (onRow : σ → Record → σ × Except Error Unit) :
    Operation (σ × Except Error Nat)
  | insert (d : Dataset) (values : Record) : Operation (Option UInt64)
  | update (d : Dataset) (values : Record) (overrides : Option Clauses) : Operation UInt64
  | delete (d : Dataset) : Operation UInt64
  | save (i : Instance) : Operation Instance
  /-- Inserting a row of a join table, whichever type its rows have. -/
  | join (joinType : Registered) (values : Record) : Operation Instance
  | joinTableExists (i : Inflector) (j : JoinTable) : Operation Bool
  | createJoinTable (i : Inflector) (j : JoinTable) : Operation Bool
  | recreateJoinTable (i : Inflector) (j : JoinTable) : Operation Bool

namespace Operation

/-- The computation of an operation. -/
def task {m : Type → Type} [Monad m] [Backend m] : {α : Type} → Operation α → Task m α
  | _, execute sql => Adapter.execute sql
  | _, executeInsert sql => do return (← Adapter.execute sql).insertId?
  | _, executeAffected sql => do return (← Adapter.execute sql).affected
  | _, query sql qualified state onRow => Adapter.query sql qualified state onRow
  | _, fetchAll sql => Adapter.fetchAll sql
  | _, listTables => Adapter.listTables
  | _, tableExists name => Adapter.tableExists name
  | _, createTable schema => Adapter.createTable schema
  | _, dropTable name => Adapter.dropTable name
  | _, transaction code => Transaction.run code.block
  | _, all d => d.all Executor.adapter
  | _, first d => d.first Executor.adapter
  | _, each d state onRow => d.each state onRow
  | _, insert d values => d.insert Executor.adapter values
  | _, update d values overrides => d.update Executor.adapter values overrides
  | _, delete d => d.delete Executor.adapter
  | _, save i => i.save Executor.adapter
  | _, join joinType values => JoinTable.create Executor.adapter (pure joinType) values
  | _, joinTableExists i j => j.exists? i
  | _, createJoinTable i j => j.createTable i
  | _, recreateJoinTable i j => j.recreateTable i

/-- A connection is given back to be closed exactly if it carried a transaction whose BEGIN succeeded,
    and neither its COMMIT nor its ROLLBACK. -/
def Discards : {α : Type} → Operation α → Hold → Prop
  | _, transaction code, h =>
    ∃ id l own r, Transaction.Course h.conn code l own r ∧ h.uses = l.uses h.conn id own ∧
      h.discarded = l.unfinished
  | _, _, h => h.discarded = false

end Operation

/-! ## Staying on a connection -/

theorem Event.On.within {conn : ConnectionId} {e : Event} (h : e.On conn) : e.Within conn := by
  obtain ⟨r, x⟩ := e
  cases r with
  | acquire | release | enter | leave => exact h.elim
  | _ => exact h

namespace Transaction

variable {α : Type} {conn : ConnectionId}

/-- A transaction stays on its connection. -/
theorem Course.within {code : Code α} {l : Lifecycle} {own : List Event} {r : Except Stop α}
    {id : TransactionId} (course : Course conn code l own r) :
    ∀ e ∈ l.uses conn id own, e.Within conn := by
  have passage : Passage (Block.RunsIn code.block ⟨conn, id⟩) l own r := passage_iff_course.mpr course
  obtain ⟨inside, huses, hinside⟩ := passage.exists_uses (composed_block code)
  rw [huses]
  refine List.forall_mem_append.mpr ⟨?_, List.forall_mem_singleton.mpr trivial⟩
  exact List.forall_mem_cons.mpr ⟨trivial, fun e he => (hinside e he).within⟩

/-- A transaction holds its connection once. -/
theorem exists_holds_run {code : Code α} {es : List Event} {r : Except Stop α}
    (run : (run code.block : Task Program α).run.Runs es r) :
    ∃ hs, Holds es hs none ∧ ∀ h ∈ hs, (Operation.transaction code).Discards h := by
  rcases runs_run.mp run with ⟨s, rfl, rfl⟩ | ⟨conn, id, l, own, course, rfl⟩
  · exact ⟨[], .refused s .nothing, List.forall_mem_nil _⟩
  · let h : Hold := ⟨conn, l.uses conn id own, l.unfinished, course.within⟩
    exact ⟨[h], .one h, List.forall_mem_singleton.mpr ⟨id, l, own, r, course, rfl, rfl⟩⟩

end Transaction

/-! ## Statement by statement -/

/-- What is done with a connection stays on it. -/
def StaysOn {α : Type} (body : ConnectionId → Task Program α) : Prop :=
  ∀ conn es r, (body conn).run.Runs es r → ∀ e ∈ es, e.On conn

namespace StaysOn

variable {α : Type}

theorem execute (sql : String) : StaysOn fun conn => Adapter.executeOn conn sql := by
  intro conn es r run
  rw [Adapter.runs_executeOn.mp run]
  exact Adapter.on_sending

theorem query (sql : String) (fetches : Bool) (read : RowStream → α × RowStream) :
    StaysOn fun conn => Adapter.queryOn conn sql fetches read := by
  intro conn es r run
  obtain ⟨x, rfl, -⟩ := Adapter.runs_queryOn.mp run
  exact Adapter.on_reading

theorem fetchAll (sql : String) : StaysOn fun conn => Adapter.fetchAllOn conn sql := by
  intro conn es r run
  obtain ⟨x, rfl, -⟩ := Adapter.runs_fetchAllOn.mp run
  exact Adapter.on_reading

theorem listTables : StaysOn fun conn => (Backend.listTables conn : Task Program (List String)) := by
  intro conn es r run
  rw [Program.runs_request.mp run]
  exact List.forall_mem_singleton.mpr rfl

/-- Then an operation on a connection of its own is one hold, unless it gets no connection. -/
theorem runs_holding {body : ConnectionId → Task Program α} (on : StaysOn body) {es : List Event}
    {r : Except Stop α} (run : (Adapter.holding body).run.Runs es r) :
    (∃ s, es = [⟨.acquire, .error s⟩] ∧ r = .error s) ∨
      ∃ h : Hold, h.discarded = false ∧ es = h.events := by
  rcases Adapter.runs_holding.mp run with refused | ⟨conn, uses, hbody, rfl⟩
  · exact .inl refused
  · exact .inr ⟨⟨conn, uses, false, fun e he => (on conn uses r hbody e he).within⟩, rfl, rfl⟩

end StaysOn

/-- Computations that take a connection for one statement at a time. -/
inductive Stepwise : {α : Type} → Task Program α → Prop
  | value {α : Type} (a : α) : Stepwise (pure a)
  | stop {α : Type} (s : Stop) : Stepwise (throw s : Task Program α)
  | execute (sql : String) : Stepwise (Adapter.execute sql)
  | query {σ : Type} (sql : String) (qualified : Bool) (state : σ)
    (onRow : σ → Record → σ × Except Error Unit) : Stepwise (Adapter.query sql qualified state onRow)
  | fetchAll (sql : String) : Stepwise (Adapter.fetchAll sql)
  | listTables : Stepwise Adapter.listTables
  | andThen {α β : Type} {t : Task Program β} {f : β → Task Program α} (part : Stepwise t)
    (next : ∀ x, Stepwise (f x)) : Stepwise (t >>= f)

namespace Stepwise

variable {α : Type}

theorem tableExists (name : String) : Stepwise (Adapter.tableExists name) :=
  listTables.andThen fun _ => value _

theorem createTable (schema : TableSchema) : Stepwise (Adapter.createTable schema) :=
  (execute _).andThen fun _ => value _

theorem dropTable (name : String) : Stepwise (Adapter.dropTable name) :=
  (execute _).andThen fun _ => value _

/-- An instance that was saved is refused before any connection is taken. -/
theorem save (i : Instance) : Stepwise (i.save Executor.adapter : Task Program Instance) := by
  have saving : Stepwise (do
      let outcome ← Adapter.execute (Adapter.dialect.insertSql i.entity.table i.values)
      return ⟨i.entity, Instance.withKey i.entity i.values outcome.insertId?, true⟩ :
        Task Program Instance) :=
    (execute _).andThen fun _ => value _
  unfold Instance.save
  split
  · exact (stop _).andThen fun _ => saving
  · exact saving

theorem createJoinTable (i : Inflector) (j : JoinTable) : Stepwise (j.createTable i) := by
  refine (tableExists _).andThen fun found => ?_
  cases found with
  | true => exact value _
  | false => exact (createTable _).andThen fun _ => value _

theorem recreateJoinTable (i : Inflector) (j : JoinTable) : Stepwise (j.recreateTable i) := by
  have creating : Stepwise (do
      Adapter.createTable (j.schema i)
      return true : Task Program Bool) :=
    (createTable _).andThen fun _ => value _
  refine (tableExists _).andThen fun found => ?_
  cases found with
  | true => exact (dropTable _).andThen fun _ => creating
  | false => exact creating

end Stepwise

/-- All operations but transactions run statement by statement. -/
theorem Operation.stepwise {α : Type} (op : Operation α)
    (single : ∀ code, op ≠ .transaction code) : Stepwise op.task := by
  cases op with
  | transaction code => exact absurd rfl (single code)
  | execute sql => exact .execute sql
  | executeInsert sql => exact (Stepwise.execute sql).andThen fun _ => .value _
  | executeAffected sql => exact (Stepwise.execute sql).andThen fun _ => .value _
  | query sql qualified state onRow => exact .query sql qualified state onRow
  | fetchAll sql => exact .fetchAll sql
  | listTables => exact .listTables
  | tableExists name => exact .tableExists name
  | createTable schema => exact .createTable schema
  | dropTable name => exact .dropTable name
  | all d => exact .fetchAll d.selectSql
  | first d => exact (Stepwise.fetchAll d.firstSql).andThen fun _ => .value _
  | each d state onRow => exact .query d.selectSql false state onRow
  | insert d values => exact (Stepwise.execute (d.insertSql values)).andThen fun _ => .value _
  | update d values overrides =>
    exact (Stepwise.execute (d.updateSql values overrides)).andThen fun _ => .value _
  | delete d => exact (Stepwise.execute d.deleteSql).andThen fun _ => .value _
  | save i => exact .save i
  | join joinType values =>
    exact (Stepwise.value joinType).andThen fun r => .save (.fresh r.entity values)
  | joinTableExists i j => exact .tableExists (j.name i)
  | createJoinTable i j => exact .createJoinTable i j
  | recreateJoinTable i j => exact .recreateJoinTable i j

/-! ## Keeping no connection -/

/-- In every run the connections that are taken are given back, and none of them to be closed. -/
def Tidy {α : Type} (t : Task Program α) : Prop :=
  ∀ es r, t.run.Runs es r → ∃ hs, Holds es hs none ∧ ∀ h ∈ hs, h.discarded = false

/-- An operation on a connection of its own, if it stays on that connection. -/
theorem tidy_holding {α : Type} {body : ConnectionId → Task Program α} (on : StaysOn body) :
    Tidy (Adapter.holding body) := by
  intro es r run
  rcases on.runs_holding run with ⟨s, rfl, rfl⟩ | ⟨h, kept, rfl⟩
  · exact ⟨[], .refused s .nothing, List.forall_mem_nil _⟩
  · exact ⟨[h], .one h, List.forall_mem_singleton.mpr kept⟩

theorem Stepwise.tidy {α : Type} {t : Task Program α} (stepwise : Stepwise t) : Tidy t := by
  induction stepwise with
  | value a =>
    intro es r run
    obtain ⟨rfl, -⟩ := Task.runs_pure.mp run
    exact ⟨[], .nothing, List.forall_mem_nil _⟩
  | stop s =>
    intro es r run
    obtain ⟨rfl, -⟩ := Task.runs_throw.mp run
    exact ⟨[], .nothing, List.forall_mem_nil _⟩
  | execute sql => exact tidy_holding (.execute sql)
  | query sql qualified state onRow => exact tidy_holding (.query sql true _)
  | fetchAll sql => exact tidy_holding (.fetchAll sql)
  | listTables => exact tidy_holding .listTables
  | andThen part next ihPart ihNext =>
    intro es r run
    rcases Task.runs_bind.mp run with ⟨s, h, rfl⟩ | ⟨a, es₁, es₂, h₁, h₂, rfl⟩
    · exact ihPart _ _ h
    · obtain ⟨hs₁, holds₁, kept₁⟩ := ihPart _ _ h₁
      obtain ⟨hs₂, holds₂, kept₂⟩ := ihNext a _ _ h₂
      exact ⟨hs₁ ++ hs₂, holds₁.append holds₂, List.forall_mem_append.mpr ⟨kept₁, kept₂⟩⟩

/-! ## Every operation -/

/-- An operation is a sequence of holds, each of which ends as the operation says. -/
theorem exists_holds {α : Type} {op : Operation α} {es : List Event} {r : Except Stop α}
    (run : (op.task : Task Program α).run.Runs es r) :
    ∃ hs, Holds es hs none ∧ ∀ h ∈ hs, op.Discards h := by
  cases op with
  | transaction code => exact Transaction.exists_holds_run run
  | _ => exact (Operation.stepwise _ fun code h => by cases h).tidy _ _ run

end SqlMapper
