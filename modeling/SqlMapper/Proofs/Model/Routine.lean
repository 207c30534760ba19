import SqlMapper.Model.Dataset
import SqlMapper.Model.JoinTable
import SqlMapper.Proofs.Transaction.Composed

/-!
# Routines

Code that works with datasets, instances and join tables: any number of calls, each chosen by what came
before, with whatever it does to the catalog in between. A routine is written once and runs through any
executor. An error of a call reaches the routine, which may end with it or go on.

* `Models`: the catalog and the join tables that a routine works with.
* `Routine`: the syntax, and `Routine.through` the computation through an executor.
* `tried`: a part whose error is left to the whole, in any surroundings.
* `Routine.composed`: through an open transaction, a routine may stand in every block.
-/

namespace SqlMapper

/-- The catalog and the join tables of a routine, each of these by a number. -/
structure Models where
  catalog : Catalog
  tables : Nat → JoinTable

/-- After the look-up of the type of a join table's rows. -/
def Models.lookedUp (s : Models) (k : Nat) : Models where
  catalog := ((s.tables k).joinType s.catalog).2.2
  tables := fun i => if i = k then ((s.tables k).joinType s.catalog).2.1 else s.tables i

/-- The type of a join table's rows. -/
def Models.rowType (s : Models) (k : Nat) : Registered := ((s.tables k).joinType s.catalog).1

namespace Routine

/-- A call that takes an executor. -/
inductive Call : Type → Type 1 where
  | all (d : Dataset) : Call (List Record)
  | first (d : Dataset) : Call (Option Record)
  | insert (d : Dataset) (values : Record) : Call (Option UInt64)
  | update (d : Dataset) (values : Record) (overrides : Option Clauses) : Call UInt64
  | delete (d : Dataset) : Call UInt64
  | save (i : Instance) : Call Instance
  /-- Inserting a row of the join table with a number. -/
  | create (table : Nat) (values : Record) : Call Instance

end Routine

/-- A routine. After a call it goes on with the value or the error; between calls it may use the catalog
    and the join tables as it likes. -/
inductive Routine (α : Type) : Type 1 where
  | value (a : α)
  | fail (e : Error)
  | panic
  | models {β : Type} (use : Models → β × Models) (next : β → Routine α)
  | call {β : Type} (k : Routine.Call β) (next : Except Error β → Routine α)

/-! ## Computations -/

section Through

variable {n : Type → Type} [Monad n] [MonadExceptOf Stop n]

/-- A part whose error is left to the whole. A panic and a cancellation are no errors. -/
def tried {α : Type} (part : n α) : n (Except Error α) :=
  tryCatchThe Stop (Except.ok <$> part) fun
    | .failed e => pure (.error e)
    | stop => throwThe Stop stop

namespace Routine

/-- The computation of a call through an executor. -/
def Call.through {α : Type} (k : Call α) (x : Executor n) (s : Models) : n α :=
  match k with
  | all d => d.all x
  | first d => d.first x
  | insert d values => d.insert x values
  | update d values overrides => d.update x values overrides
  | delete d => d.delete x
  | save i => i.save x
  | create table values => JoinTable.create x (pure (s.rowType table)) values

/-- What a call leaves behind, however it ends: creating a row looks its type up first. -/
def Call.after {α : Type} (k : Call α) (s : Models) : Models :=
  match k with
  | create table _ => s.lookedUp table
  | _ => s

/-- The computation of a routine through an executor. It yields the catalog and the join tables as well. -/
def through {α : Type} (x : Executor n) : Routine α → Models → n (α × Models)
  | value a, s => pure (a, s)
  | fail e, _ => throwThe Stop (.failed e)
  | panic, _ => throwThe Stop .panicked
  | models use next, s => (next (use s).1).through x (use s).2
  | call k next, s => do (next (← tried (k.through x s))).through x (k.after s)

end Routine

end Through

/-! ## Parts whose error is left to the whole -/

/-- In a task. -/
theorem runs_tried {α : Type} {t : Task Program α} {es : List Event}
    {r : Except Stop (Except Error α)} :
    (tried t).run.Runs es r ↔ ∃ x, t.run.Runs es x ∧ r = Transaction.caught x := by
  have unfolded : (tried t).run = Transaction.caught <$> t.run := by
    rw [map_eq_pure_bind]
    show ((t.run >>= _) >>= _) = _
    rw [Program.bind_assoc]
    congr 1
    funext x
    rcases x with (e | _ | _) | a
    all_goals rfl
  rw [unfolded, Program.runs_map]

/-- In the block of a transaction. -/
theorem tried_eq_attempt {α : Type} (b : Transaction.Block Program α) :
    tried b = Transaction.attempt b := by
  funext h depth
  show ((b.on h depth >>= _) >>= _) =
    (b.on h depth >>= fun x => Program.done (Transaction.caught x.1, x.2))
  rw [Program.bind_assoc]
  congr 1
  funext ⟨x, depth'⟩
  rcases x with (e | _ | _) | a
  all_goals rfl

/-! ## Blocks -/

namespace Routine

open Transaction (Composed)

theorem composed_execute (sql : String) : Composed (Transaction.execute sql) := .call (.execute sql)

theorem composed_fetchAll (sql : String) : Composed (Transaction.fetchAll sql) :=
  .call (.fetchAll sql)

/-- An instance that was saved is refused before anything is sent. -/
theorem composed_save (i : Instance) : Composed (i.save Executor.transaction) := by
  have saving : Composed (do
      let outcome ← Transaction.execute (Adapter.dialect.insertSql i.entity.table i.values)
      return ⟨i.entity, Instance.withKey i.entity i.values outcome.insertId?, true⟩ :
        Transaction.Block Program Instance) :=
    (composed_execute _).andThen fun _ => .value _
  unfold Instance.save
  split
  · exact (Composed.stop _).andThen fun _ => saving
  · exact saving

theorem Call.composed {α : Type} (k : Call α) (s : Models) :
    Composed (k.through Executor.transaction s) := by
  cases k with
  | all d => exact composed_fetchAll d.selectSql
  | first d => exact (composed_fetchAll d.firstSql).andThen fun _ => .value _
  | insert d values => exact (composed_execute (d.insertSql values)).andThen fun _ => .value _
  | update d values overrides =>
    exact (composed_execute (d.updateSql values overrides)).andThen fun _ => .value _
  | delete d => exact (composed_execute d.deleteSql).andThen fun _ => .value _
  | save i => exact composed_save i
  | create table values =>
    exact (Composed.value (s.rowType table)).andThen fun r => composed_save (.fresh r.entity values)

/-- A routine through an open transaction is a part of its block. -/
theorem composed {α : Type} (p : Routine α) (s : Models) :
    Composed (p.through Executor.transaction s) := by
  induction p generalizing s with
  | value a => exact .value (a, s)
  | fail e => exact .stop (.failed e)
  | panic => exact .stop .panicked
  | models use next ih => exact ih (use s).1 (use s).2
  | call k next ih =>
    have part : Composed (tried (k.through Executor.transaction s)) := by
      rw [tried_eq_attempt]
      exact (k.composed s).attempt
    exact part.andThen fun x => ih x (k.after s)

end Routine

end SqlMapper
