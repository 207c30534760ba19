import SqlMapper.Proofs.Transaction.Course

/-!
# Blocks by composition

A block is made of calls through its handle, with blocks inside it, one part after the other; an error of
a part may be caught. It may end with a value or an error, it may panic, and it may be given up at any
place, also while it waits for something that has nothing to do with the database.

* `Composed`: the blocks that are made so. `composed_block`: those given by their syntax are.
* `runs_bind_on`, `runs_map_on`, `runs_attempt_on`: the runs of a composed block, by its parts.
* `Composed.on`: a block stays on the connection of its transaction.
* `Passage.exists_uses`: so does the whole transaction.
-/

namespace SqlMapper.Transaction

variable {α β : Type}

/-- What may stand in a transaction. -/
inductive Composed : {α : Type} → Block Program α → Prop
  | value {α : Type} (a : α) : Composed (pure a)
  /-- The block ends with an error, or panics, or is given up. -/
  | stop {α : Type} (s : Stop) : Composed (throw s : Block Program α)
  | call {α : Type} (k : Call α) : Composed k.block
  | attempt {α : Type} {b : Block Program α} (part : Composed b) : Composed (attempt b)
  | andThen {α β : Type} {b : Block Program β} {f : β → Block Program α} (part : Composed b)
    (next : ∀ x, Composed (f x)) : Composed (b >>= f)
  | nested {α : Type} {b : Block Program α} (part : Composed b) : Composed (nested b)

/-- A block that is given by its syntax. -/
theorem composed_block (code : Code α) : Composed code.block := by
  induction code with
  | value a => exact .value a
  | fail e => exact .stop (.failed e)
  | panic => exact .stop .panicked
  | call k next ih => exact .andThen (.attempt (.call k)) ih
  | nested body next ihBody ihNext => exact .andThen (.attempt (.nested ihBody)) ihNext

/-! ## Runs by parts -/

section Runs

variable {b : Block Program β} {h : Handle} {depth depth' : UInt32} {es : List Event}

theorem runs_attempt_on {r : Except Stop (Except Error β)} :
    ((attempt b).on h depth).Runs es (r, depth') ↔
      ∃ x, (b.on h depth).Runs es (x, depth') ∧ r = caught x := by
  have unfolded : (attempt b).on h depth = (fun x => (caught x.1, x.2)) <$> b.on h depth := by
    rw [map_eq_pure_bind]
    rfl
  rw [unfolded, Program.runs_map]
  constructor
  · rintro ⟨⟨x, depth₁⟩, ran, heq⟩
    obtain ⟨rfl, rfl⟩ := Prod.mk.inj heq
    exact ⟨x, ran, rfl⟩
  · rintro ⟨x, ran, rfl⟩
    exact ⟨(x, depth'), ran, rfl⟩

/-- One part after the other: nothing follows a part that stops. -/
theorem runs_bind_on {f : β → Block Program α} {r : Except Stop α} :
    ((b >>= f).on h depth).Runs es (r, depth') ↔
      ∃ x depth₁ es₁ es₂, (b.on h depth).Runs es₁ (x, depth₁) ∧ es = es₁ ++ es₂ ∧
        match x with
        | .ok a => ((f a).on h depth₁).Runs es₂ (r, depth')
        | .error s => es₂ = [] ∧ r = .error s ∧ depth' = depth₁ := by
  have unfolded : (b >>= f).on h depth = (b.on h depth >>= fun x =>
      match x.1 with
      | .ok a => (f a).on h x.2
      | .error s => Program.done (.error s, x.2)) := by
    show (b.on h depth >>= _) = _
    congr 1
    funext ⟨x, depth₁⟩
    cases x <;> rfl
  rw [unfolded, Program.runs_bind]
  constructor
  · rintro ⟨⟨x, depth₁⟩, es₁, es₂, h₁, h₂, rfl⟩
    refine ⟨x, depth₁, es₁, es₂, h₁, rfl, ?_⟩
    cases x with
    | ok a => exact h₂
    | error s => exact ⟨h₂.1, Prod.mk.inj h₂.2⟩
  · rintro ⟨x, depth₁, es₁, es₂, h₁, rfl, h₂⟩
    refine ⟨(x, depth₁), es₁, es₂, h₁, ?_, rfl⟩
    cases x with
    | ok a => exact h₂
    | error s =>
      obtain ⟨rfl, rfl, rfl⟩ := h₂
      exact ⟨rfl, rfl⟩

theorem runs_execute_on {sql : String} {r : Except Stop Outcome} :
    ((Transaction.execute sql).on h depth).Runs es (r, depth') ↔
      es = Adapter.sending h.conn sql r ∧ depth' = depth :=
  runs_call_on (k := .execute sql)

/-- A part whose answer is only turned into another one. -/
theorem runs_map_on {f : β → α} {r : Except Stop α} :
    ((b >>= fun x => pure (f x)).on h depth).Runs es (r, depth') ↔
      ∃ x, (b.on h depth).Runs es (x, depth') ∧ r = x.map f := by
  rw [runs_bind_on]
  constructor
  · rintro ⟨x, depth₁, es₁, es₂, ran, rfl, next⟩
    cases x with
    | ok a =>
      obtain ⟨rfl, rfl, rfl⟩ := runs_pure_on.mp next
      exact ⟨.ok a, by rwa [List.append_nil], rfl⟩
    | error s =>
      obtain ⟨rfl, rfl, rfl⟩ := next
      exact ⟨.error s, by rwa [List.append_nil], rfl⟩
  · rintro ⟨x, ran, rfl⟩
    refine ⟨x, depth', es, [], ran, (List.append_nil es).symm, ?_⟩
    cases x with
    | ok a => exact runs_pure_on.mpr ⟨rfl, rfl, rfl⟩
    | error s => exact ⟨rfl, rfl, rfl⟩

end Runs

/-! ## Requests -/

section Requests

variable {conn : ConnectionId} {es : List Event}

theorem Call.Does.on {k : Call α} {depth : UInt32} {r : Except Stop α} (does : k.Does conn depth es r) :
    ∀ e ∈ es, e.On conn := by
  cases k with
  | execute sql => obtain rfl := does; exact Adapter.on_sending
  | query sql fetches read => obtain ⟨x, rfl, -⟩ := does; exact Adapter.on_reading
  | fetchAll sql => obtain ⟨x, rfl, -⟩ := does; exact Adapter.on_reading
  | listTables => obtain rfl := does; exact List.forall_mem_singleton.mpr rfl
  | depth => obtain ⟨rfl, -⟩ := does; exact List.forall_mem_nil _

/-- A block, with all blocks inside it, only sends statements on the connection of its transaction. -/
theorem Composed.on {b : Block Program α} (composed : Composed b) {h : Handle} {depth depth' : UInt32}
    {r : Except Stop α} (ran : (b.on h depth).Runs es (r, depth')) : ∀ e ∈ es, e.On h.conn := by
  induction composed generalizing depth depth' es with
  | value a =>
    obtain ⟨rfl, -⟩ := runs_pure_on.mp ran
    exact List.forall_mem_nil _
  | stop s =>
    obtain ⟨rfl, -⟩ := runs_throw_on.mp ran
    exact List.forall_mem_nil _
  | call k => exact (runs_call_on.mp ran).1.on
  | attempt part ih =>
    obtain ⟨x, ran, -⟩ := runs_attempt_on.mp ran
    exact ih ran
  | andThen part next ihPart ihNext =>
    obtain ⟨x, depth₁, es₁, es₂, h₁, rfl, h₂⟩ := runs_bind_on.mp ran
    refine List.forall_mem_append.mpr ⟨ihPart h₁, ?_⟩
    cases x with
    | ok a => exact ihNext a h₂
    | error s =>
      obtain ⟨rfl, -⟩ := h₂
      exact List.forall_mem_nil _
  | nested part ih =>
    obtain ⟨depth₁, ran, -⟩ := runs_nested_on.mp ran
    exact ih ran

theorem Lifecycle.on_ifSent {sql : String} {answer? : Option (Except Stop Outcome)} :
    ∀ e ∈ ifSent conn sql answer?, e.On conn := by
  cases answer? with
  | none => exact List.forall_mem_nil _
  | some x => exact Adapter.on_sending

/-- The block is run only after BEGIN has succeeded, and stays on the connection. -/
theorem Passage.on_own {b : Block Program α} (composed : Composed b) {id : TransactionId}
    {l : Lifecycle} {own : List Event} {r : Except Stop α}
    (passage : Passage (b.RunsIn ⟨conn, id⟩) l own r) :
    ((∃ o, l.begun = .ok o) ∨ own = []) ∧ ∀ e ∈ own, e.On conn := by
  cases passage with
  | refused => exact ⟨.inr rfl, List.forall_mem_nil _⟩
  | begun o inside ends =>
    obtain ⟨depth, ran⟩ := inside
    exact ⟨.inl ⟨o, rfl⟩, composed.on ran⟩

/-- Between setting its mark and removing it a transaction only sends statements on its connection. -/
theorem Passage.exists_uses {b : Block Program α} (composed : Composed b) {id : TransactionId}
    {l : Lifecycle} {own : List Event} {r : Except Stop α}
    (passage : Passage (b.RunsIn ⟨conn, id⟩) l own r) :
    ∃ inside, l.uses conn id own = ⟨.enter, id⟩ :: inside ++ [⟨.leave id, ()⟩] ∧
      ∀ e ∈ inside, e.On conn := by
  have hown := (passage.on_own composed).2
  refine ⟨Adapter.sending conn "BEGIN" l.begun ++ own ++ Lifecycle.ifSent conn "COMMIT" l.commit? ++
    Lifecycle.ifSent conn "ROLLBACK" l.rollback?, rfl, ?_⟩
  simp only [List.forall_mem_append]
  exact ⟨⟨⟨Adapter.on_sending, hown⟩, Lifecycle.on_ifSent⟩, Lifecycle.on_ifSent⟩

end Requests

end SqlMapper.Transaction
