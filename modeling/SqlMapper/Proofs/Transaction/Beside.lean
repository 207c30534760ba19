import SqlMapper.Proofs.Transaction.Course

/-!
# Transactions beside a state

A program may keep a state of its own beside its surroundings. The library's operations leave it alone,
so in a whole transaction only the code of the block can change it.

* `Task.inState_bind`: a task beside a state, by its parts.
* `runs_bind_beside`, `runs_lift_beside`: the runs of a sequence, and of a part that leaves the state alone.
* `runs_call_beside`, `runs_nested_beside`: calls through the handle, and blocks inside a block.
* `runs_run_beside`: the runs of a transaction whose block uses the state.
-/

namespace SqlMapper

variable {α β σ : Type}

/-! ## Tasks -/

theorem Task.inState_bind {m : Type → Type} [Monad m] [LawfulMonad m] (t : Task m α)
    (f : α → Task m β) :
    (t >>= f).inState = (t.inState >>= fun a => (f a).inState : Task (StateT σ m) β) := by
  funext s
  show (t.run >>= _) >>= _ = (t.run >>= fun x => pure (x, s)) >>= _
  rw [bind_assoc, bind_assoc]
  refine bind_congr fun x => ?_
  rw [pure_bind]
  cases x with
  | error stop => exact pure_bind _ _
  | ok a => rfl

namespace Adapter

variable {conn : ConnectionId} {sql : String}

theorem executeOn_inState :
    (executeOn conn sql : Task (StateT σ Program) Outcome) =
      (executeOn conn sql : Task Program Outcome).inState := rfl

theorem queryOn_inState {fetches : Bool} {read : RowStream → α × RowStream} :
    (queryOn conn sql fetches read : Task (StateT σ Program) α) =
      (queryOn conn sql fetches read : Task Program α).inState := by
  unfold queryOn
  simp only [Task.inState_bind]
  cases fetches <;> rfl

theorem fetchAllOn_inState :
    (fetchAllOn conn sql : Task (StateT σ Program) (List Record)) =
      (fetchAllOn conn sql : Task Program (List Record)).inState := by
  unfold fetchAllOn
  rw [Task.inState_bind, queryOn_inState]
  rfl

end Adapter

namespace Transaction

variable {conn : ConnectionId} {es : List Event} {s s' : σ}

/-! ## Runs beside a state -/

/-- One part after the other. -/
theorem runs_bind_beside {p : StateT σ Program α} {f : α → StateT σ Program β} {b : β} :
    ((p >>= f).run s).Runs es (b, s') ↔
      ∃ a s₁ es₁ es₂, (p.run s).Runs es₁ (a, s₁) ∧ ((f a).run s₁).Runs es₂ (b, s') ∧
        es = es₁ ++ es₂ := by
  show (p.run s >>= fun y => (f y.1).run y.2).Runs es (b, s') ↔ _
  rw [Program.runs_bind]
  constructor
  · rintro ⟨⟨a, s₁⟩, es₁, es₂, h₁, h₂, rfl⟩
    exact ⟨a, s₁, es₁, es₂, h₁, h₂, rfl⟩
  · rintro ⟨a, s₁, es₁, es₂, h₁, h₂, rfl⟩
    exact ⟨(a, s₁), es₁, es₂, h₁, h₂, rfl⟩

/-- A part that leaves the state alone. -/
theorem runs_lift_beside {p : Program α} {a : α} :
    ((StateT.lift p : StateT σ Program α).run s).Runs es (a, s') ↔ p.Runs es a ∧ s' = s := by
  show (p >>= fun a => Program.done (a, s)).Runs es (a, s') ↔ _
  rw [Program.runs_bind]
  constructor
  · rintro ⟨a, es₁, es₂, ran, ⟨rfl, h⟩, rfl⟩
    cases h
    exact ⟨by rwa [List.append_nil], rfl⟩
  · rintro ⟨ran, rfl⟩
    exact ⟨a, es, [], ran, ⟨rfl, rfl⟩, (List.append_nil es).symm⟩

theorem runs_executeOn_beside {sql : String} {r : Except Stop Outcome} :
    ((Adapter.executeOn conn sql : Task (StateT σ Program) Outcome).run.run s).Runs es (r, s') ↔
      es = Adapter.sending conn sql r ∧ s' = s := by
  rw [Adapter.executeOn_inState]
  exact runs_lift_beside.trans (and_congr_left' Adapter.runs_executeOn)

/-! ## Parts of a block -/

/-- The program of a block inside a transaction at some depth, beside a state. It yields the depth and
    the state at its end too. -/
def Block.beside (b : Block (StateT σ Program) α) (h : Handle) (depth : UInt32) (s : σ) :
    Program ((Except Stop α × UInt32) × σ) :=
  ((b h).run.run depth).run s

/-- How a part of a block ended, as a value: the block goes on however that was. -/
def Block.ended {m : Type → Type} [Monad m] (b : Block m α) : Block m (Except Stop α) := fun h =>
  ExceptT.mk (Except.ok <$> (b h).run)

section Parts

variable {h : Handle} {depth depth' : UInt32}

/-- A part of a block whose ending is left to the block, with what follows it. -/
theorem runs_ended_bind_beside {b : Block (StateT σ Program) β}
    {f : Except Stop β → Block (StateT σ Program) α} {r : Except Stop α} :
    ((Block.ended b >>= f).beside h depth s).Runs es ((r, depth'), s') ↔
      ∃ x depth₁ s₁ es₁ es₂, (b.beside h depth s).Runs es₁ ((x, depth₁), s₁) ∧
        ((f x).beside h depth₁ s₁).Runs es₂ ((r, depth'), s') ∧ es = es₁ ++ es₂ := by
  have unfolded : (Block.ended b >>= f).beside h depth s =
      (b.beside h depth s >>= fun y => (f y.1.1).beside h y.1.2 y.2) := by
    show (b.beside h depth s >>= fun y => Program.done ((Except.ok y.1.1, y.1.2), y.2)) >>= _ = _
    rw [Program.bind_assoc]
    rfl
  rw [unfolded, Program.runs_bind]
  constructor
  · rintro ⟨⟨⟨x, depth₁⟩, s₁⟩, es₁, es₂, h₁, h₂, rfl⟩
    exact ⟨x, depth₁, s₁, es₁, es₂, h₁, h₂, rfl⟩
  · rintro ⟨x, depth₁, s₁, es₁, es₂, h₁, h₂, rfl⟩
    exact ⟨((x, depth₁), s₁), es₁, es₂, h₁, h₂, rfl⟩

/-- A task inside a block leaves the depth and the state alone. -/
theorem runs_task_beside {t : Task Program α} {r : Except Stop α} :
    ((lift t.inState : Block (StateT σ Program) α).beside h depth s).Runs es ((r, depth'), s') ↔
      t.run.Runs es r ∧ depth' = depth ∧ s' = s := by
  have unfolded : (lift t.inState : Block (StateT σ Program) α).beside h depth s =
      (fun x => ((x, depth), s)) <$> t.run := by
    rw [map_eq_pure_bind]
    show (t.run >>= fun x => Program.done (x, s)) >>= _ = _
    rw [Program.bind_assoc]
    rfl
  rw [unfolded, Program.runs_map]
  constructor
  · rintro ⟨x, ran, heq⟩
    cases heq
    exact ⟨ran, rfl, rfl⟩
  · rintro ⟨ran, rfl, rfl⟩
    exact ⟨r, ran, rfl⟩

/-- A call through the handle does beside a state what it does without one. -/
theorem runs_call_beside {k : Call α} {r : Except Stop α} :
    ((k.block : Block (StateT σ Program) α).beside h depth s).Runs es ((r, depth'), s') ↔
      k.Does h.conn depth es r ∧ depth' = depth ∧ s' = s := by
  cases k with
  | execute sql =>
    show ((lift (Adapter.executeOn h.conn sql)).beside h depth s).Runs es ((r, depth'), s') ↔ _
    rw [Adapter.executeOn_inState, runs_task_beside, Adapter.runs_executeOn, Call.Does]
  | query sql fetches read =>
    show ((lift (Adapter.queryOn h.conn sql fetches read)).beside h depth s).Runs es ((r, depth'), s') ↔ _
    rw [Adapter.queryOn_inState, runs_task_beside, Adapter.runs_queryOn, Call.Does]
  | fetchAll sql =>
    show ((lift (Adapter.fetchAllOn h.conn sql)).beside h depth s).Runs es ((r, depth'), s') ↔ _
    rw [Adapter.fetchAllOn_inState, runs_task_beside, Adapter.runs_fetchAllOn, Call.Does]
  | listTables =>
    show ((lift (Task.inState (Backend.listTables h.conn))).beside h depth s).Runs es ((r, depth'), s') ↔ _
    rw [runs_task_beside, Call.Does]
    exact and_congr_left' Program.runs_request
  | depth =>
    show es = [] ∧ ((r, depth'), s') = ((.ok depth, depth), s) ↔ _
    rw [Prod.mk.injEq, Prod.mk.injEq, Call.Does, and_assoc, and_assoc]

/-- A block inside a block runs one deeper, and leaves that depth only by a value or an error. -/
theorem runs_nested_beside {b : Block (StateT σ Program) α} {r : Except Stop α} :
    ((nested b).beside h depth s).Runs es ((r, depth'), s') ↔
      ∃ depth₁, (b.beside h (depth + 1) s).Runs es ((r, depth₁), s') ∧
        depth' = match caught r with
          | .ok _ => depth₁ - 1
          | .error _ => depth₁ := by
  have unfolded : (nested b).beside h depth s = (fun y => ((y.1.1, match caught y.1.1 with
      | .ok _ => y.1.2 - 1
      | .error _ => y.1.2), y.2)) <$> b.beside h (depth + 1) s := by
    rw [map_eq_pure_bind]
    show (b.beside h (depth + 1) s >>= _) = _
    refine bind_congr fun ⟨⟨x, depth₁⟩, s₁⟩ => ?_
    rcases x with (e | _ | _) | a <;> rfl
  rw [unfolded, Program.runs_map]
  constructor
  · rintro ⟨⟨⟨x, depth₁⟩, s₁⟩, ran, heq⟩
    cases heq
    exact ⟨depth₁, ran, rfl⟩
  · rintro ⟨depth₁, ran, rfl⟩
    exact ⟨((r, depth₁), s'), ran, rfl⟩

end Parts

/-! ## The end of a transaction -/

theorem stateLift_bind (p : Program α) (f : α → Program β) :
    (StateT.lift (p >>= f) : StateT σ Program β) = StateT.lift p >>= fun a => StateT.lift (f a) :=
  monadLift_bind (n := StateT σ Program) p f

theorem rollback_lift {e : Error} :
    (rollback conn e : StateT σ Program (Except Stop α × Bool)) = StateT.lift (rollback conn e) := by
  unfold rollback
  rw [stateLift_bind]
  refine bind_congr fun x => ?_
  rcases x with (e | _ | _) | o <;> rfl

theorem conclude_lift {x : Except Stop α} :
    (conclude conn x : StateT σ Program (Except Stop α × Bool)) = StateT.lift (conclude conn x) := by
  unfold conclude
  rcases x with (e | _ | _) | a
  case error.failed => exact rollback_lift
  case ok =>
    rw [stateLift_bind]
    refine bind_congr fun y => ?_
    rcases y with (e | _ | _) | o
    case error.failed => exact rollback_lift
    all_goals rfl
  all_goals rfl

theorem runs_conclude_beside {x r : Except Stop α} {stillOpen : Bool} :
    ((conclude conn x : StateT σ Program (Except Stop α × Bool)).run s).Runs es ((r, stillOpen), s') ↔
      (∃ commit? rollback?, Concludes x commit? rollback? r ∧
        es = Lifecycle.ifSent conn "COMMIT" commit? ++ Lifecycle.ifSent conn "ROLLBACK" rollback? ∧
        stillOpen = (!commit?.any Except.isOk && !rollback?.any Except.isOk)) ∧ s' = s := by
  rw [conclude_lift, runs_lift_beside, runs_conclude]

theorem runs_leave_release_beside {id : TransactionId} {discard : Bool} {x r : Except Stop α} :
    ((do
      Backend.leave id
      Backend.release conn discard
      return x : StateT σ Program (Except Stop α)).run s).Runs es (r, s') ↔
      (es = [⟨.leave id, ()⟩, ⟨.release conn discard, ()⟩] ∧ r = x) ∧ s' = s :=
  (runs_lift_beside (p := do
    Backend.leave id
    Backend.release conn discard
    return x)).trans (and_congr_left' runs_leave_release)

/-! ## A whole transaction -/

/-- How a block runs inside a transaction, from one state to another. The depth at its end is left out. -/
def Block.RunsBeside (b : Block (StateT σ Program) α) (h : Handle) (s s' : σ) (own : List Event)
    (x : Except Stop α) : Prop :=
  ∃ depth, (b.beside h 0 s).Runs own ((x, depth), s')

/-- What a transaction does once BEGIN has succeeded. -/
theorem runs_begun_beside {b : Block (StateT σ Program) α} {id : TransactionId} {r : Except Stop α} :
    ((do
      let (result, _) ← ((b ⟨conn, id⟩).run).run 0
      let (result, stillOpen) ← conclude conn result
      Backend.leave id
      Backend.release conn stillOpen
      return result : StateT σ Program (Except Stop α)).run s).Runs es (r, s') ↔
      ∃ own x commit? rollback?, b.RunsBeside ⟨conn, id⟩ s s' own x ∧ Concludes x commit? rollback? r ∧
        es = own ++ Lifecycle.ifSent conn "COMMIT" commit? ++
          Lifecycle.ifSent conn "ROLLBACK" rollback? ++ [⟨.leave id, ()⟩,
            ⟨.release conn (!commit?.any Except.isOk && !rollback?.any Except.isOk), ()⟩] := by
  rw [runs_bind_beside]
  constructor
  · rintro ⟨⟨x, depth⟩, s₁, own, _, hblock, h, rfl⟩
    obtain ⟨⟨r', stillOpen⟩, s₂, _, _, hend, hafter, rfl⟩ := runs_bind_beside.mp h
    obtain ⟨⟨rfl, rfl⟩, rfl⟩ := runs_leave_release_beside.mp hafter
    obtain ⟨⟨commit?, rollback?, ends, rfl, rfl⟩, rfl⟩ := runs_conclude_beside.mp hend
    exact ⟨own, x, commit?, rollback?, ⟨depth, hblock⟩, ends, by simp⟩
  · rintro ⟨own, x, commit?, rollback?, ⟨depth, hblock⟩, ends, rfl⟩
    refine ⟨(x, depth), s', own, _, hblock, runs_bind_beside.mpr ⟨(r, _), s', _, _,
      runs_conclude_beside.mpr ⟨⟨commit?, rollback?, ends, rfl, rfl⟩, rfl⟩,
      runs_leave_release_beside.mpr ⟨⟨rfl, rfl⟩, rfl⟩, rfl⟩, ?_⟩
    simp

/-- What a transaction asks for on a connection that it has taken. -/
theorem runs_runOn_beside {b : Block (StateT σ Program) α} {r : Except Stop α} :
    ((runOn conn b : StateT σ Program (Except Stop α)).run s).Runs es (r, s') ↔
      ∃ id l own, Passage (b.RunsBeside ⟨conn, id⟩ s s') l own r ∧
        ((∃ stop, l.begun = .error stop) → s' = s) ∧
        es = l.uses conn id own ++ [⟨.release conn l.unfinished, ()⟩] := by
  unfold runOn
  rw [runs_bind_beside]
  constructor
  · rintro ⟨id, s₁, _, _, henter, h, rfl⟩
    obtain ⟨asked, rfl⟩ := runs_lift_beside.mp henter
    rw [Program.runs_request.mp asked]
    obtain ⟨x, s₂, _, _, hbegin, hafter, rfl⟩ := runs_bind_beside.mp h
    obtain ⟨rfl, rfl⟩ := runs_executeOn_beside.mp hbegin
    cases x with
    | error stop =>
      obtain ⟨⟨rfl, rfl⟩, rfl⟩ := runs_leave_release_beside.mp hafter
      exact ⟨id, _, [], .refused stop, fun _ => rfl, rfl⟩
    | ok o =>
      obtain ⟨own, x, commit?, rollback?, ran, ends, rfl⟩ := runs_begun_beside.mp hafter
      exact ⟨id, _, own, .begun o ran ends, (fun ⟨_, refused⟩ => by cases refused),
        by simp [Lifecycle.uses, Lifecycle.unfinished, Except.isOk, Except.toBool]⟩
  · rintro ⟨id, l, own, passage, kept, rfl⟩
    cases passage with
    | refused stop =>
      obtain rfl := kept ⟨stop, rfl⟩
      exact ⟨id, _, _, _, runs_lift_beside.mpr ⟨Program.runs_request.mpr rfl, rfl⟩,
        runs_bind_beside.mpr ⟨.error stop, _, _, _,
          runs_executeOn_beside.mpr ⟨rfl, rfl⟩,
          runs_leave_release_beside.mpr ⟨⟨rfl, rfl⟩, rfl⟩, rfl⟩, rfl⟩
    | begun o ran ends =>
      refine ⟨id, _, _, _, runs_lift_beside.mpr ⟨Program.runs_request.mpr rfl, rfl⟩,
        runs_bind_beside.mpr ⟨.ok o, _, _, _,
          runs_executeOn_beside.mpr ⟨rfl, rfl⟩,
          runs_begun_beside.mpr ⟨_, _, _, _, ran, ends, rfl⟩, rfl⟩, ?_⟩
      simp [Lifecycle.uses, Lifecycle.unfinished, Except.isOk, Except.toBool]

/-- The runs of a transaction whose block uses a state: nothing but the block changes it, and the block is
    not run if BEGIN fails. -/
theorem runs_run_beside {b : Block (StateT σ Program) α} {r : Except Stop α} :
    ((run b : Task (StateT σ Program) α).run.run s).Runs es (r, s') ↔
      (∃ stop, es = [⟨.acquire, .error stop⟩] ∧ r = .error stop ∧ s' = s) ∨
        ∃ conn id l own, Passage (b.RunsBeside ⟨conn, id⟩ s s') l own r ∧
          ((∃ stop, l.begun = .error stop) → s' = s) ∧
          es = ⟨.acquire, .ok conn⟩ :: l.uses conn id own ++ [⟨.release conn l.unfinished, ()⟩] := by
  unfold run
  rw [ExceptT.run_mk, runs_bind_beside]
  constructor
  · rintro ⟨x, s₁, _, _, h, h₂, rfl⟩
    obtain ⟨asked, rfl⟩ := runs_lift_beside.mp h
    rw [Program.runs_request.mp asked]
    cases x with
    | error stop =>
      obtain ⟨rfl, h₂⟩ := h₂
      cases h₂
      exact .inl ⟨stop, rfl, rfl, rfl⟩
    | ok conn =>
      obtain ⟨id, l, own, passage, kept, rfl⟩ := runs_runOn_beside.mp h₂
      exact .inr ⟨conn, id, l, own, passage, kept, rfl⟩
  · rintro (⟨stop, rfl, rfl, rfl⟩ | ⟨conn, id, l, own, passage, kept, rfl⟩)
    · exact ⟨.error stop, _, _, [], runs_lift_beside.mpr ⟨Program.runs_request.mpr rfl, rfl⟩,
        ⟨rfl, rfl⟩, rfl⟩
    · exact ⟨.ok conn, _, _, _, runs_lift_beside.mpr ⟨Program.runs_request.mpr rfl, rfl⟩,
        runs_runOn_beside.mpr ⟨id, l, own, passage, kept, rfl⟩, rfl⟩

end Transaction

end SqlMapper
