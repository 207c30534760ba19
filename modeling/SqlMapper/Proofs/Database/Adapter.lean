import SqlMapper.Proofs.Database.Program

/-!
# Runs of the adapter's operations

What the parts of an operation ask for on a connection, as their runs.

* `Event.On`: a statement on a connection, or what is logged of it.
* `runs_executeOn`, `runs_queryOn`, `runs_fetchAllOn`: one statement on a connection.
* `runs_holding`: an operation on a connection of its own.
* `runs_execute`, `runs_listTables`: a statement, and the listing of tables, on one of its own.
-/

namespace SqlMapper

variable {α β : Type} {es : List Event}

/-! ## Tasks -/

namespace Task

theorem runs_pure {a : α} {r : Except Stop α} :
    (pure a : Task Program α).run.Runs es r ↔ es = [] ∧ r = .ok a := Iff.rfl

theorem runs_throw {s : Stop} {r : Except Stop α} :
    (throw s : Task Program α).run.Runs es r ↔ es = [] ∧ r = .error s := Iff.rfl

/-- A task that stops ends the sequence that it begins. -/
theorem runs_bind {t : Task Program α} {f : α → Task Program β} {r : Except Stop β} :
    (t >>= f).run.Runs es r ↔
      (∃ s, t.run.Runs es (.error s) ∧ r = .error s) ∨
        ∃ a es₁ es₂, t.run.Runs es₁ (.ok a) ∧ (f a).run.Runs es₂ r ∧ es = es₁ ++ es₂ := by
  rw [ExceptT.run_bind, Program.runs_bind]
  constructor
  · rintro ⟨x, es₁, es₂, h₁, h₂, rfl⟩
    cases x with
    | error s =>
      obtain ⟨rfl, rfl⟩ := h₂
      exact .inl ⟨s, by simpa using h₁, rfl⟩
    | ok a => exact .inr ⟨a, es₁, es₂, h₁, h₂, rfl⟩
  · rintro (⟨s, h, rfl⟩ | ⟨a, es₁, es₂, h₁, h₂, rfl⟩)
    · exact ⟨.error s, es, [], h, ⟨rfl, rfl⟩, by simp⟩
    · exact ⟨.ok a, es₁, es₂, h₁, h₂, rfl⟩

/-- A task whose answer is only turned into another one. -/
theorem runs_map {t : Task Program α} {f : α → β} {r : Except Stop β} :
    (t >>= fun a => pure (f a)).run.Runs es r ↔ ∃ x, t.run.Runs es x ∧ r = x.map f := by
  rw [runs_bind]
  constructor
  · rintro (⟨s, run, rfl⟩ | ⟨a, es₁, es₂, run, ⟨rfl, rfl⟩, rfl⟩)
    · exact ⟨.error s, run, rfl⟩
    · exact ⟨.ok a, by simpa using run, rfl⟩
  · rintro ⟨x, run, rfl⟩
    cases x with
    | error s => exact .inl ⟨s, run, rfl⟩
    | ok a => exact .inr ⟨a, es, [], run, ⟨rfl, rfl⟩, by simp⟩

/-- A task after a part that cannot stop. -/
theorem runs_lift_bind {p : Program α} {f : α → Task Program β} {r : Except Stop β} :
    ((liftM p : Task Program α) >>= f).run.Runs es r ↔
      ∃ a es₁ es₂, p.Runs es₁ a ∧ (f a).run.Runs es₂ r ∧ es = es₁ ++ es₂ := by
  have lifted : (liftM p : Task Program α).run = Except.ok <$> p := rfl
  rw [ExceptT.run_bind, lifted, bind_map_left, Program.runs_bind]

theorem runs_ofExcept {x : Except Error α} {r : Except Stop α} :
    (Task.ofExcept x : Task Program α).run.Runs es r ↔ es = [] ∧ r = x.mapError .failed :=
  Iff.rfl

end Task

/-! ## Statements on a connection -/

/-- A statement on a connection, its fetches that are taken back, or what is logged of it. -/
def Event.On (conn : ConnectionId) : Event → Prop
  | ⟨.execute c _, _⟩ | ⟨.query c _ _, _⟩ | ⟨.abandon c _, _⟩ | ⟨.listTables c, _⟩ => c = conn
  | ⟨.log _, _⟩ => True
  | ⟨.acquire, _⟩ | ⟨.release _ _, _⟩ | ⟨.enter, _⟩ | ⟨.leave _, _⟩ => False

namespace Adapter

/-- A statement without rows: it is logged and then sent. -/
def sending (conn : ConnectionId) (sql : String) (answer : Except Stop Outcome) : List Event :=
  [⟨.log sql, ()⟩, ⟨.execute conn sql, answer⟩]

/-- A statement with rows: it is logged and sent, and the fetches that were not made are taken back. -/
def reading (conn : ConnectionId) (sql : String) (fetches : Bool) (left : RowStream → RowStream) :
    Except Stop RowStream → List Event
  | .error s => [⟨.log sql, ()⟩, ⟨.query conn sql fetches, .error s⟩]
  | .ok stream =>
    [⟨.log sql, ()⟩, ⟨.query conn sql fetches, .ok stream⟩] ++
      if fetches then [⟨.abandon conn (left stream), ()⟩] else []

variable {conn : ConnectionId} {sql : String}

theorem on_sending {answer : Except Stop Outcome} : ∀ e ∈ sending conn sql answer, e.On conn :=
  List.forall_mem_cons.mpr ⟨trivial, List.forall_mem_singleton.mpr rfl⟩

theorem on_reading {fetches : Bool} {left : RowStream → RowStream} {x : Except Stop RowStream} :
    ∀ e ∈ reading conn sql fetches left x, e.On conn := by
  cases x with
  | error s => exact List.forall_mem_cons.mpr ⟨trivial, List.forall_mem_singleton.mpr rfl⟩
  | ok stream =>
    refine List.forall_mem_append.mpr
      ⟨List.forall_mem_cons.mpr ⟨trivial, List.forall_mem_singleton.mpr rfl⟩, ?_⟩
    cases fetches with
    | false => exact List.forall_mem_nil _
    | true => exact List.forall_mem_singleton.mpr rfl

theorem runs_executeOn {r : Except Stop Outcome} :
    (executeOn conn sql : Task Program Outcome).run.Runs es r ↔ es = sending conn sql r := by
  unfold executeOn
  rw [Task.runs_lift_bind]
  constructor
  · rintro ⟨_, _, _, h₁, h₂, rfl⟩
    rw [Program.runs_request.mp h₁, Program.runs_request.mp h₂]
    rfl
  · rintro rfl
    exact ⟨(), _, _, Program.runs_request.mpr rfl, Program.runs_request.mpr rfl, rfl⟩

/-- The fetches that were not made are taken back, if any was to be made. -/
theorem runs_abandonLeft {fetches : Bool} {left : RowStream} {a : α} {r : Except Stop α} :
    (do
      if fetches then (Backend.abandon conn left : Program Unit)
      return a : Task Program α).run.Runs es r ↔
      es = (if fetches then [⟨.abandon conn left, ()⟩] else []) ∧ r = .ok a := by
  cases fetches with
  | false => exact Task.runs_pure
  | true =>
    rw [if_pos rfl, if_pos rfl, Task.runs_lift_bind]
    constructor
    · rintro ⟨_, _, _, h₁, ⟨rfl, rfl⟩, rfl⟩
      rw [Program.runs_request.mp h₁]
      exact ⟨rfl, rfl⟩
    · rintro ⟨rfl, rfl⟩
      exact ⟨(), _, _, Program.runs_request.mpr rfl, ⟨rfl, rfl⟩, rfl⟩

theorem runs_queryOn {fetches : Bool} {read : RowStream → α × RowStream} {r : Except Stop α} :
    (queryOn conn sql fetches read : Task Program α).run.Runs es r ↔
      ∃ x, es = reading conn sql fetches (fun s => (read s).2) x ∧
        r = x.map fun s => (read s).1 := by
  unfold queryOn
  rw [Task.runs_lift_bind]
  simp only [Task.runs_bind]
  constructor
  · rintro ⟨_, _, _, h₁, h, rfl⟩
    rw [Program.runs_request.mp h₁]
    rcases h with ⟨s, h, rfl⟩ | ⟨stream, es₁, es₂, h, h₂, rfl⟩
    · rw [Program.runs_request.mp h]
      exact ⟨.error s, rfl, rfl⟩
    · obtain ⟨rfl, rfl⟩ := runs_abandonLeft.mp h₂
      rw [Program.runs_request.mp h]
      exact ⟨.ok stream, rfl, rfl⟩
  · rintro ⟨x, rfl, rfl⟩
    cases x with
    | error s =>
      exact ⟨(), _, _, Program.runs_request.mpr rfl,
        .inl ⟨s, Program.runs_request.mpr rfl, rfl⟩, rfl⟩
    | ok stream =>
      exact ⟨(), _, _, Program.runs_request.mpr rfl,
        .inr ⟨stream, _, _, Program.runs_request.mpr rfl, runs_abandonLeft.mpr ⟨rfl, rfl⟩, rfl⟩, rfl⟩

/-- All records of a stream, with an error of the stream as the task's error. -/
def collected (s : RowStream) : Except Stop (List Record) :=
  ((Decoder.start false).collect s).1.mapError .failed

theorem runs_fetchAllOn {r : Except Stop (List Record)} :
    (fetchAllOn conn sql : Task Program (List Record)).run.Runs es r ↔
      ∃ x, es = reading conn sql true (fun s => ((Decoder.start false).collect s).2) x ∧
        r = x.bind collected := by
  unfold fetchAllOn
  rw [Task.runs_bind]
  simp only [runs_queryOn, Task.runs_ofExcept]
  constructor
  · rintro (⟨s, ⟨x, rfl, hx⟩, rfl⟩ | ⟨a, _, _, ⟨x, rfl, hx⟩, ⟨rfl, rfl⟩, rfl⟩)
    · cases x with
      | error s' => cases hx; exact ⟨.error s, rfl, rfl⟩
      | ok stream => cases hx
    · cases x with
      | error s' => cases hx
      | ok stream => cases hx; exact ⟨.ok stream, by simp, rfl⟩
  · rintro ⟨x, rfl, rfl⟩
    cases x with
    | error s => exact .inl ⟨s, ⟨.error s, rfl, rfl⟩, rfl⟩
    | ok stream => exact .inr ⟨_, _, [], ⟨.ok stream, rfl, rfl⟩, ⟨rfl, rfl⟩, by simp⟩

/-! ## A connection of its own -/

/-- An operation on a connection of its own gives the connection back, and never to be closed. -/
theorem runs_holding {body : ConnectionId → Task Program α} {r : Except Stop α} :
    (holding body).run.Runs es r ↔
      (∃ s, es = [⟨.acquire, .error s⟩] ∧ r = .error s) ∨
        ∃ conn uses, (body conn).run.Runs uses r ∧
          es = ⟨.acquire, .ok conn⟩ :: uses ++ [⟨.release conn false, ()⟩] := by
  unfold holding
  rw [ExceptT.run_mk, Program.runs_bind]
  constructor
  · rintro ⟨x, _, _, h, h₂, rfl⟩
    rw [Program.runs_request.mp h]
    cases x with
    | error s =>
      obtain ⟨rfl, rfl⟩ := h₂
      exact .inl ⟨s, rfl, rfl⟩
    | ok conn =>
      rw [Program.runs_bind] at h₂
      obtain ⟨r', uses, _, hbody, h₃, rfl⟩ := h₂
      rw [Program.runs_bind] at h₃
      obtain ⟨_, _, _, h₄, ⟨rfl, rfl⟩, rfl⟩ := h₃
      rw [Program.runs_request.mp h₄]
      exact .inr ⟨conn, uses, hbody, by simp⟩
  · rintro (⟨s, rfl, rfl⟩ | ⟨conn, uses, hbody, rfl⟩)
    · exact ⟨.error s, _, [], Program.runs_request.mpr rfl, ⟨rfl, rfl⟩, rfl⟩
    · refine ⟨.ok conn, _, _, Program.runs_request.mpr rfl, ?_, rfl⟩
      exact Program.runs_bind.mpr ⟨r, uses, _, hbody,
        Program.runs_bind.mpr ⟨(), _, [], Program.runs_request.mpr rfl, ⟨rfl, rfl⟩, rfl⟩, rfl⟩

theorem runs_execute {r : Except Stop Outcome} :
    (execute sql : Task Program Outcome).run.Runs es r ↔
      (∃ s, es = [⟨.acquire, .error s⟩] ∧ r = .error s) ∨
        ∃ conn, es = ⟨.acquire, .ok conn⟩ :: sending conn sql r ++ [⟨.release conn false, ()⟩] := by
  unfold execute
  rw [runs_holding]
  simp only [runs_executeOn, exists_eq_left]

theorem runs_listTables {r : Except Stop (List String)} :
    (listTables : Task Program (List String)).run.Runs es r ↔
      (∃ s, es = [⟨.acquire, .error s⟩] ∧ r = .error s) ∨
        ∃ conn, es = [⟨.acquire, .ok conn⟩, ⟨.listTables conn, r⟩, ⟨.release conn false, ()⟩] := by
  have listing (conn : ConnectionId) (uses : List Event) :
      (Backend.listTables conn : Task Program (List String)).run.Runs uses r ↔
        uses = [⟨.listTables conn, r⟩] := Program.runs_request
  unfold listTables
  rw [runs_holding]
  simp only [listing, exists_eq_left]
  rfl

end Adapter

end SqlMapper
