import SqlMapper.Proofs.Connection.Operation
import SqlMapper.Proofs.Database.Exchange
import SqlMapper.Proofs.Model.Routine

/-!
# Routines through the adapter and through a transaction

A routine does the same through an adapter, on a connection of its own for every statement, and through
the handle of an open transaction: it sends the same statements and comes to the same result, if the
driver gives the same replies. Through the handle it stays on the connection of the transaction, between
BEGIN and the end.

* `Event.Granted`: no connection is refused.
* `Mirrors`: a block of a transaction that has the exchanges and the results of a task.
* `Routine.mirrors`: a routine through the handle mirrors it through the adapter.
* `Routine.through_agree`: both executors.
-/

namespace SqlMapper

open Transaction (Block Composed Handle lift)

/-- No connection is refused. -/
def Event.Granted : Event → Prop
  | ⟨.acquire, .error _⟩ => False
  | _ => True

theorem Event.On.granted {conn : ConnectionId} {e : Event} (h : e.On conn) : e.Granted := by
  obtain ⟨r, x⟩ := e
  cases r with
  | acquire => exact h.elim
  | _ => trivial

section Exchanging

variable {α β : Type} {ss : List Exchange}

/-- A task has these exchanges, and ends so, in a run in which no connection is refused. -/
def Task.Has (t : Task Program α) (ss : List Exchange) (r : Except Stop α) : Prop :=
  ∃ es, t.run.Runs es r ∧ (∀ e ∈ es, e.Granted) ∧ exchanges es = ss

/-- A block has these exchanges, and ends so, on a connection at some depth. -/
def Transaction.Block.Has (b : Block Program α) (h : Handle) (depth : UInt32) (ss : List Exchange)
    (r : Except Stop α × UInt32) : Prop :=
  ∃ es, (b.on h depth).Runs es r ∧ exchanges es = ss

/-- A block that has the exchanges and the results of a task, wherever it runs. -/
def Mirrors (t : Task Program α) (b : Block Program α) : Prop :=
  ∀ h depth ss r depth', b.Has h depth ss (r, depth') ↔ t.Has ss r ∧ depth' = depth

/-! ## Exchanges by parts -/

theorem Task.has_pure {a : α} {r : Except Stop α} :
    (pure a : Task Program α).Has ss r ↔ ss = [] ∧ r = .ok a := by
  constructor
  · rintro ⟨es, ⟨rfl, rfl⟩, -, rfl⟩
    exact ⟨rfl, rfl⟩
  · rintro ⟨rfl, rfl⟩
    exact ⟨[], ⟨rfl, rfl⟩, List.forall_mem_nil _, rfl⟩

theorem Task.has_throw {s : Stop} {r : Except Stop α} :
    (throw s : Task Program α).Has ss r ↔ ss = [] ∧ r = .error s := by
  constructor
  · rintro ⟨es, ⟨rfl, rfl⟩, -, rfl⟩
    exact ⟨rfl, rfl⟩
  · rintro ⟨rfl, rfl⟩
    exact ⟨[], ⟨rfl, rfl⟩, List.forall_mem_nil _, rfl⟩

theorem Task.has_tried {t : Task Program α} {r : Except Stop (Except Error α)} :
    (tried t).Has ss r ↔ ∃ x, t.Has ss x ∧ r = Transaction.caught x := by
  constructor
  · rintro ⟨es, run, granted, rfl⟩
    obtain ⟨x, inner, rfl⟩ := runs_tried.mp run
    exact ⟨x, ⟨es, inner, granted, rfl⟩, rfl⟩
  · rintro ⟨x, ⟨es, run, granted, rfl⟩, rfl⟩
    exact ⟨es, runs_tried.mpr ⟨x, run, rfl⟩, granted, rfl⟩

theorem Task.has_bind {t : Task Program β} {f : β → Task Program α} {r : Except Stop α} :
    (t >>= f).Has ss r ↔ (∃ s, t.Has ss (.error s) ∧ r = .error s) ∨
      ∃ a ss₁ ss₂, t.Has ss₁ (.ok a) ∧ (f a).Has ss₂ r ∧ ss = ss₁ ++ ss₂ := by
  constructor
  · rintro ⟨es, run, granted, rfl⟩
    rcases Task.runs_bind.mp run with ⟨s, stopped, rfl⟩ | ⟨a, es₁, es₂, run₁, run₂, rfl⟩
    · exact .inl ⟨s, ⟨es, stopped, granted, rfl⟩, rfl⟩
    · obtain ⟨granted₁, granted₂⟩ := List.forall_mem_append.mp granted
      exact .inr ⟨a, _, _, ⟨es₁, run₁, granted₁, rfl⟩, ⟨es₂, run₂, granted₂, rfl⟩, exchanges_append⟩
  · rintro (⟨s, ⟨es, run, granted, rfl⟩, rfl⟩ |
      ⟨a, _, _, ⟨es₁, run₁, granted₁, rfl⟩, ⟨es₂, run₂, granted₂, rfl⟩, rfl⟩)
    · exact ⟨es, Task.runs_bind.mpr (.inl ⟨s, run, rfl⟩), granted, rfl⟩
    · exact ⟨es₁ ++ es₂, Task.runs_bind.mpr (.inr ⟨a, es₁, es₂, run₁, run₂, rfl⟩),
        List.forall_mem_append.mpr ⟨granted₁, granted₂⟩, exchanges_append⟩

/-! ## Exchanges on a connection of its own -/

theorem exchanges_held {conn : ConnectionId} {uses : List Event} :
    exchanges (⟨.acquire, .ok conn⟩ :: uses ++ [⟨.release conn false, ()⟩]) = exchanges uses := by
  have hgiving : exchanges [⟨.release conn false, ()⟩] = [] := rfl
  rw [exchanges_append, hgiving, List.append_nil]
  rfl

/-- What a task exchanges on a connection of its own, if that is the same on all connections. -/
theorem Task.has_holding {body : ConnectionId → Task Program α} (on : StaysOn body)
    {Exchanged : List Exchange → Except Stop α → Prop}
    (same : ∀ conn ss r, (∃ es, (body conn).run.Runs es r ∧ exchanges es = ss) ↔ Exchanged ss r)
    {r : Except Stop α} : (Adapter.holding body).Has ss r ↔ Exchanged ss r := by
  constructor
  · rintro ⟨es, run, granted, rfl⟩
    rcases Adapter.runs_holding.mp run with ⟨s, rfl, -⟩ | ⟨conn, uses, hbody, rfl⟩
    · exact (granted _ List.mem_cons_self).elim
    · exact (same conn _ r).mp ⟨uses, hbody, exchanges_held.symm⟩
  · intro hexchanged
    let conn : ConnectionId := 0
    obtain ⟨es, run, rfl⟩ := (same conn _ r).mpr hexchanged
    refine ⟨_, Adapter.runs_holding.mpr (.inr ⟨conn, es, run, rfl⟩), ?_, exchanges_held⟩
    refine List.forall_mem_append.mpr ⟨?_, List.forall_mem_singleton.mpr trivial⟩
    exact List.forall_mem_cons.mpr ⟨trivial, fun e he => (on conn es r run e he).granted⟩

/-- Fetching all records is one exchange, on every connection. -/
theorem exchanged_fetchAllOn {conn : ConnectionId} {sql : String} {r : Except Stop (List Record)} :
    (∃ es, (Adapter.fetchAllOn conn sql : Task Program (List Record)).run.Runs es r ∧
        exchanges es = ss) ↔
      ∃ x, ss = [⟨.statement sql, .rows x⟩] ∧ r = x.bind Adapter.collected := by
  simp only [Adapter.runs_fetchAllOn]
  constructor
  · rintro ⟨es, ⟨x, rfl, rfl⟩, rfl⟩
    exact ⟨x, exchanges_reading, rfl⟩
  · rintro ⟨x, rfl, rfl⟩
    exact ⟨_, ⟨x, rfl, rfl⟩, exchanges_reading⟩

theorem Task.has_fetchAll {sql : String} {r : Except Stop (List Record)} :
    (Adapter.fetchAll sql : Task Program (List Record)).Has ss r ↔
      ∃ x, ss = [⟨.statement sql, .rows x⟩] ∧ r = x.bind Adapter.collected :=
  Task.has_holding (.fetchAll sql) fun _ _ _ => exchanged_fetchAllOn

/-- A task whose answer is only turned into another one. -/
theorem Task.has_map {t : Task Program β} {f : β → α} {r : Except Stop α} :
    (t >>= fun a => pure (f a)).Has ss r ↔ ∃ x, t.Has ss x ∧ r = x.map f := by
  constructor
  · rintro ⟨es, run, granted, rfl⟩
    obtain ⟨x, inner, rfl⟩ := Task.runs_map.mp run
    exact ⟨x, ⟨es, inner, granted, rfl⟩, rfl⟩
  · rintro ⟨x, ⟨es, run, granted, rfl⟩, rfl⟩
    exact ⟨es, Task.runs_map.mpr ⟨x, run, rfl⟩, granted, rfl⟩

/-! ## Mirroring by parts -/

namespace Mirrors

theorem pure (a : α) : Mirrors (Pure.pure a) (Pure.pure a) := by
  intro h depth ss r depth'
  rw [Task.has_pure]
  constructor
  · rintro ⟨es, run, rfl⟩
    obtain ⟨rfl, rfl, rfl⟩ := Transaction.runs_pure_on.mp run
    exact ⟨⟨rfl, rfl⟩, rfl⟩
  · rintro ⟨⟨rfl, rfl⟩, rfl⟩
    exact ⟨[], Transaction.runs_pure_on.mpr ⟨rfl, rfl, rfl⟩, rfl⟩

theorem throw (s : Stop) :
    Mirrors (MonadExcept.throw s : Task Program α) (MonadExcept.throw s) := by
  intro h depth ss r depth'
  rw [Task.has_throw]
  constructor
  · rintro ⟨es, run, rfl⟩
    obtain ⟨rfl, rfl, rfl⟩ := Transaction.runs_throw_on.mp run
    exact ⟨⟨rfl, rfl⟩, rfl⟩
  · rintro ⟨⟨rfl, rfl⟩, rfl⟩
    exact ⟨[], Transaction.runs_throw_on.mpr ⟨rfl, rfl, rfl⟩, rfl⟩

theorem tried {t : Task Program α} {b : Block Program α} (same : Mirrors t b) :
    Mirrors (SqlMapper.tried t) (SqlMapper.tried b) := by
  intro h depth ss r depth'
  rw [Task.has_tried, tried_eq_attempt]
  constructor
  · rintro ⟨es, run, rfl⟩
    obtain ⟨x, inner, rfl⟩ := Transaction.runs_attempt_on.mp run
    obtain ⟨has, rfl⟩ := (same h depth _ x depth').mp ⟨es, inner, rfl⟩
    exact ⟨⟨x, has, rfl⟩, rfl⟩
  · rintro ⟨⟨x, has, rfl⟩, rfl⟩
    obtain ⟨es, run, hss⟩ := (same h depth' ss x depth').mpr ⟨has, rfl⟩
    exact ⟨es, Transaction.runs_attempt_on.mpr ⟨x, run, rfl⟩, hss⟩

theorem bind {t : Task Program β} {b : Block Program β} {f : β → Task Program α}
    {g : β → Block Program α} (first : Mirrors t b) (next : ∀ a, Mirrors (f a) (g a)) :
    Mirrors (t >>= f) (b >>= g) := by
  intro h depth ss r depth'
  rw [Task.has_bind]
  constructor
  · rintro ⟨es, run, rfl⟩
    obtain ⟨x, depth₁, es₁, es₂, run₁, rfl, run₂⟩ := Transaction.runs_bind_on.mp run
    obtain ⟨has₁, rfl⟩ := (first h depth _ x depth₁).mp ⟨es₁, run₁, rfl⟩
    cases x with
    | error s =>
      obtain ⟨rfl, rfl, rfl⟩ := run₂
      rw [List.append_nil]
      exact ⟨.inl ⟨s, has₁, rfl⟩, rfl⟩
    | ok a =>
      obtain ⟨has₂, rfl⟩ := (next a h depth₁ _ r depth').mp ⟨es₂, run₂, rfl⟩
      exact ⟨.inr ⟨a, _, _, has₁, has₂, exchanges_append⟩, rfl⟩
  · rintro ⟨⟨s, has, rfl⟩ | ⟨a, ss₁, ss₂, has₁, has₂, rfl⟩, rfl⟩
    · obtain ⟨es, run, hss⟩ := (first h depth' ss (.error s) depth').mpr ⟨has, rfl⟩
      exact ⟨es, Transaction.runs_bind_on.mpr ⟨_, depth', es, [], run, (List.append_nil es).symm,
        rfl, rfl, rfl⟩, hss⟩
    · obtain ⟨es₁, run₁, rfl⟩ := (first h depth' ss₁ (.ok a) depth').mpr ⟨has₁, rfl⟩
      obtain ⟨es₂, run₂, rfl⟩ := (next a h depth' ss₂ r depth').mpr ⟨has₂, rfl⟩
      exact ⟨es₁ ++ es₂, Transaction.runs_bind_on.mpr ⟨_, depth', es₁, es₂, run₁, rfl, run₂⟩,
        exchanges_append⟩

/-- What is done with a connection of its own by the adapter, and with the connection of the transaction
    by its handle, if the exchanges are the same on all connections. -/
theorem holding {body : ConnectionId → Task Program α} (on : StaysOn body)
    (Exchanged : List Exchange → Except Stop α → Prop)
    (same : ∀ conn ss r, (∃ es, (body conn).run.Runs es r ∧ exchanges es = ss) ↔ Exchanged ss r) :
    Mirrors (Adapter.holding body) fun h => lift (body h.conn) h := by
  intro h depth ss r depth'
  have block : Block.Has (fun h => lift (body h.conn) h) h depth ss (r, depth') ↔
      Exchanged ss r ∧ depth' = depth := by
    rw [← same h.conn]
    constructor
    · rintro ⟨es, run, hss⟩
      obtain ⟨run, hdepth⟩ := Transaction.runs_lift_on.mp run
      exact ⟨⟨es, run, hss⟩, hdepth⟩
    · rintro ⟨⟨es, run, hss⟩, hdepth⟩
      exact ⟨es, Transaction.runs_lift_on.mpr ⟨run, hdepth⟩, hss⟩
  rw [block, Task.has_holding on same]

theorem execute (sql : String) : Mirrors (Adapter.execute sql) (Transaction.execute sql) := by
  refine holding (.execute sql) (fun ss r => ss = [⟨.statement sql, .outcome r⟩]) ?_
  intro conn ss r
  simp only [Adapter.runs_executeOn]
  constructor
  · rintro ⟨es, rfl, rfl⟩
    exact exchanges_sending
  · rintro rfl
    exact ⟨_, rfl, exchanges_sending⟩

theorem fetchAll (sql : String) : Mirrors (Adapter.fetchAll sql) (Transaction.fetchAll sql) :=
  holding (.fetchAll sql) _ fun _ _ _ => exchanged_fetchAllOn

theorem save (i : Instance) : Mirrors (i.save Executor.adapter) (i.save Executor.transaction) := by
  have saving : Mirrors
      (do
        let outcome ← Adapter.execute (Adapter.dialect.insertSql i.entity.table i.values)
        return ⟨i.entity, Instance.withKey i.entity i.values outcome.insertId?, true⟩ :
          Task Program Instance)
      (do
        let outcome ← Transaction.execute (Adapter.dialect.insertSql i.entity.table i.values)
        return ⟨i.entity, Instance.withKey i.entity i.values outcome.insertId?, true⟩ :
          Block Program Instance) :=
    (execute _).bind fun _ => pure _
  unfold Instance.save
  split
  · exact (throw _).bind fun _ => saving
  · exact saving

end Mirrors

/-! ## Routines -/

namespace Routine

theorem Call.mirrors (k : Call α) (s : Models) :
    Mirrors (k.through Executor.adapter s) (k.through Executor.transaction s) := by
  cases k with
  | all d => exact .fetchAll d.selectSql
  | first d => exact (Mirrors.fetchAll d.firstSql).bind fun _ => .pure _
  | insert d values => exact (Mirrors.execute (d.insertSql values)).bind fun _ => .pure _
  | update d values overrides =>
    exact (Mirrors.execute (d.updateSql values overrides)).bind fun _ => .pure _
  | delete d => exact (Mirrors.execute d.deleteSql).bind fun _ => .pure _
  | save i => exact .save i
  | create table values =>
    exact (Mirrors.pure (s.rowType table)).bind fun r => .save (.fresh r.entity values)

/-- A routine through the handle of a transaction mirrors the routine through the adapter. -/
theorem mirrors (p : Routine α) (s : Models) :
    Mirrors (p.through Executor.adapter s) (p.through Executor.transaction s) := by
  induction p generalizing s with
  | value a => exact .pure (a, s)
  | fail e => exact .throw (.failed e)
  | panic => exact .throw .panicked
  | models use next ih => exact ih (use s).1 (use s).2
  | call k next ih => exact (k.mirrors s).tried.bind fun x => ih x (k.after s)

end Routine

/-! ## Both executors -/

namespace Routine

variable {p : Routine α} {s : Models} {h : Handle} {depth depth' : UInt32} {es es' : List Event}

/-- Through the handle nothing is asked for but statements on the connection of the transaction. -/
theorem on_transaction {r : Except Stop (α × Models)}
    (run : ((p.through Executor.transaction s).on h depth).Runs es (r, depth')) :
    ∀ e ∈ es, e.On h.conn :=
  (p.composed s).on run

/-- The same replies lead to the same statements and to the same result. -/
theorem sent_eq_of_replies {r r' : Except Stop (α × Models)}
    (run : (p.through Executor.adapter s : Task Program (α × Models)).run.Runs es r)
    (granted : ∀ e ∈ es, e.Granted)
    (run' : ((p.through Executor.transaction s).on h depth).Runs es' (r', depth'))
    (same : replies es = replies es') : sent es = sent es' ∧ r = r' := by
  have has : (p.through Executor.adapter s).Has (exchanges es) r := ⟨es, run, granted, rfl⟩
  obtain ⟨es₁, run₁, hexchanges⟩ := (p.mirrors s h depth (exchanges es) r depth).mpr ⟨has, rfl⟩
  have hreplies : replies es₁ = replies es' := by
    rw [← same, replies, hexchanges]
    rfl
  obtain ⟨rfl, hresult⟩ := Program.eq_of_replies run₁ run' (on_transaction run₁) hreplies
  obtain ⟨rfl, -⟩ := Prod.mk.inj hresult
  refine ⟨?_, rfl⟩
  rw [sent, sent, hexchanges]

/-- **A routine does the same through both executors.** For every routine of datasets, instances and join
    tables, every state of the catalog, and every open transaction:

    * the exchanges with the driver that it may have through an adapter that gets its connections, and
      its result after each of them, are those that it may have through the handle;
    * if the replies are the same, the same is sent in the same order, and the results are the same;
    * through the handle it asks for nothing but statements on the connection of the transaction;
    * so wherever it stands in the block of a transaction, one connection is acquired, and all that the
      block asks for runs on it after a BEGIN that succeeded, and before COMMIT and ROLLBACK. -/
theorem through_agree (p : Routine α) (s : Models) :
    (∀ h depth ss r, (p.through Executor.adapter s).Has ss r ↔
      ∃ depth', (p.through Executor.transaction s).Has h depth ss (r, depth')) ∧
    (∀ h depth es r es' r' depth',
      (p.through Executor.adapter s : Task Program (α × Models)).run.Runs es r →
      (∀ e ∈ es, e.Granted) →
      ((p.through Executor.transaction s).on h depth).Runs es' (r', depth') →
      replies es = replies es' → sent es = sent es' ∧ r = r') ∧
    (∀ h depth es r, ((p.through Executor.transaction s).on h depth).Runs es r →
      ∀ e ∈ es, e.On h.conn) ∧
    ∀ {β : Type} (around : Block Program (α × Models) → Block Program β),
      (∀ b, Composed b → Composed (around b)) → ∀ es r,
      (Transaction.run (around (p.through Executor.transaction s))).run.Runs es r →
      (∀ e ∈ es, e.Granted) → ∃ conn id l own,
        es = ⟨.acquire, .ok conn⟩ :: Transaction.Lifecycle.uses l conn id own ++
          [⟨.release conn l.unfinished, ()⟩] ∧
        ((∃ o, l.begun = .ok o) ∨ own = []) ∧ ∀ e ∈ own, e.On conn := by
  refine ⟨?_, ?_, ?_, ?_⟩
  · intro h depth ss r
    constructor
    · intro has
      exact ⟨depth, (p.mirrors s h depth ss r depth).mpr ⟨has, rfl⟩⟩
    · rintro ⟨depth', has⟩
      exact ((p.mirrors s h depth ss r depth').mp has).1
  · intro h depth es r es' r' depth' run granted run' same
    exact sent_eq_of_replies run granted run' same
  · intro h depth es r run
    exact on_transaction run
  · intro β around keeps es r run granted
    rcases Transaction.runs_run_block.mp run with ⟨stop, rfl, -⟩ | ⟨conn, id, l, own, passage, rfl⟩
    · exact (granted _ List.mem_cons_self).elim
    · exact ⟨conn, id, l, own, rfl, passage.on_own (keeps _ (p.composed s))⟩

/-- Inserts a post, and deletes them all if that is refused. -/
def insertOrClear : Routine UInt64 :=
  .call (.insert (.ofTable "posts") .empty) fun
    | .ok _ => .value 0
    | .error _ => .call (.delete (.ofTable "posts")) fun
      | .ok n => .value n
      | .error e => .fail e

/-- An empty catalog, and join tables of posts with posts. -/
def noModels : Models where
  catalog := .empty .english
  tables := fun _ => .between (.ofTable "Post" "posts") (.ofTable "Post" "posts") ⟨none, none⟩

theorem through_agree_insertOrClear : ∃ es es',
    (insertOrClear.through Executor.adapter noModels : Task Program _).run.Runs es
      (.ok (3, noModels)) ∧ (∀ e ∈ es, e.Granted) ∧
    ((insertOrClear.through Executor.transaction noModels).on ⟨7, ⟨0⟩⟩ 1).Runs es'
      (.ok (3, noModels), 1) ∧
    replies es = replies es' ∧ sent es = sent es' ∧ ∀ e ∈ es', e.On 7 := by
  let insertSql := (Dataset.ofTable "posts").insertSql .empty
  let deleteSql := (Dataset.ofTable "posts").deleteSql
  let refused : Except Stop Outcome := .error (.failed (.database "refused" (some "HY000") "none"))
  let deleted : Except Stop Outcome := .ok ⟨3, none⟩
  let es : List Event :=
    ⟨.acquire, .ok 1⟩ :: Adapter.sending 1 insertSql refused ++ ⟨.release 1 false, ()⟩ ::
      ⟨.acquire, .ok 2⟩ :: Adapter.sending 2 deleteSql deleted ++ [⟨.release 2 false, ()⟩]
  let es' : List Event := Adapter.sending 7 insertSql refused ++ Adapter.sending 7 deleteSql deleted
  have run : (insertOrClear.through Executor.adapter noModels : Task Program _).run.Runs es
      (.ok (3, noModels)) :=
    ⟨_, _, rfl, _, _, rfl, _, _, rfl, _, _, rfl, _, _, rfl, _, _, rfl, _, _, rfl, _, _, rfl, rfl, rfl⟩
  have run' : ((insertOrClear.through Executor.transaction noModels).on ⟨7, ⟨0⟩⟩ 1).Runs es'
      (.ok (3, noModels), 1) :=
    ⟨_, _, rfl, _, _, rfl, _, _, rfl, _, _, rfl, rfl, rfl⟩
  have granted : ∀ e ∈ es, e.Granted := by simp [es, Adapter.sending, Event.Granted]
  obtain ⟨-, agree, stays, -⟩ := insertOrClear.through_agree noModels
  exact ⟨es, es', run, granted, run', rfl, (agree _ _ _ _ _ _ _ run granted run' rfl).1,
    stays _ _ _ _ run'⟩

end Routine

end Exchanging

end SqlMapper
