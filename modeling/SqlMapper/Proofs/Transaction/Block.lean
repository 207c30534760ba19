import SqlMapper.Proofs.Database.Adapter

/-!
# Blocks of a transaction

What may stand in the block of a transaction: calls through its handle, and blocks inside the block, in
any order and number, each chosen by what came before. An error of a part reaches the enclosing block,
which may pass it on or go on without it; a panic passes every block.

* `Code`: the syntax of blocks, and `Code.block` the computation that a block is.
* `Code.Does`: what a block asks for on its connection, where a block inside it asks for what its own
  parts ask for and nothing else.
* `runs_block`, `exists_runs_block`: the runs of a block are what it does.
-/

namespace SqlMapper.Transaction

variable {α β : Type}

/-! ## Syntax -/

/-- A call through the handle of a transaction. -/
inductive Call : Type → Type 1 where
  | execute (sql : String) : Call Outcome
  | query {β : Type} (sql : String) (fetches : Bool) (read : RowStream → β × RowStream) : Call β
  | fetchAll (sql : String) : Call (List Record)
  | listTables : Call (List String)
  | depth : Call UInt32

/-- The block of a transaction, or of a block inside it. After a call or an inner block it goes on with
    the value or the error. -/
inductive Code : Type → Type 1 where
  | value {α : Type} (a : α) : Code α
  | fail {α : Type} (e : Error) : Code α
  | panic {α : Type} : Code α
  | call {α β : Type} (k : Call β) (next : Except Error β → Code α) : Code α
  | nested {α β : Type} (body : Code β) (next : Except Error β → Code α) : Code α

/-- An error as a value. A panic and a cancellation are none. -/
def caught : Except Stop α → Except Stop (Except Error α)
  | .ok a => .ok (.ok a)
  | .error (.failed e) => .ok (.error e)
  | .error .panicked => .error .panicked
  | .error .cancelled => .error .cancelled

theorem caught_error_ne_ok {x : Except Stop α} {s : Stop} (h : caught x = .error s)
    {y : Except Error β} : caught (.error s : Except Stop β) ≠ .ok y := by
  rcases x with (e | _ | _) | a <;> cases h <;> simp [caught]

section Block

variable {m : Type → Type} [Monad m] [Backend m]

/-- A part of a block whose error is left to the block. -/
def attempt (b : Block m α) : Block m (Except Error α) := fun h => ExceptT.mk do
  return caught (← (b h).run)

/-- The computation of a call. -/
def Call.block : Call α → Block m α
  | execute sql => Transaction.execute sql
  | query sql fetches read => Transaction.query sql fetches read
  | fetchAll sql => Transaction.fetchAll sql
  | listTables => Transaction.listTables
  | depth => Transaction.depth

/-- The computation of a block. -/
def Code.block : {α : Type} → Code α → Block m α
  | _, value a => pure a
  | _, fail e => throw (.failed e)
  | _, panic => throw .panicked
  | _, call k next => do (next (← attempt k.block)).block
  | _, nested body next => do (next (← attempt (Transaction.nested body.block))).block

end Block

/-! ## What a block does -/

/-- What a call asks for on the connection of a block at some depth, and how it ends. -/
def Call.Does (conn : ConnectionId) (depth : UInt32) :
    {α : Type} → Call α → List Event → Except Stop α → Prop
  | _, execute sql, es, r => es = Adapter.sending conn sql r
  | _, query sql fetches read, es, r =>
    ∃ x, es = Adapter.reading conn sql fetches (fun s => (read s).2) x ∧ r = x.map fun s => (read s).1
  | _, fetchAll sql, es, r =>
    ∃ x, es = Adapter.reading conn sql true (fun s => ((Decoder.start false).collect s).2) x ∧
      r = x.bind Adapter.collected
  | _, listTables, es, r => es = [⟨.listTables conn, r⟩]
  | _, .depth, es, r => es = [] ∧ r = .ok depth

/-- A part of a block, and then what the block makes of its value or error. Nothing follows a part that
    panics or is cancelled. -/
def Onward (first : List Event → Except Stop β → Prop)
    (next : Except Error β → List Event → Except Stop α → Prop) (es : List Event) (r : Except Stop α) :
    Prop :=
  ∃ x es₁ es₂, first es₁ x ∧ es = es₁ ++ es₂ ∧
    match caught x with
    | .ok y => next y es₂ r
    | .error s => es₂ = [] ∧ r = .error s

/-- What a block asks for on its connection, and how it ends. -/
def Code.Does (conn : ConnectionId) : {α : Type} → UInt32 → Code α → List Event → Except Stop α → Prop
  | _, _, value a, es, r => es = [] ∧ r = .ok a
  | _, _, fail e, es, r => es = [] ∧ r = .error (.failed e)
  | _, _, panic, es, r => es = [] ∧ r = .error .panicked
  | _, depth, call k next, es, r =>
    Onward (k.Does conn depth) (fun y => (next y).Does conn depth) es r
  | _, depth, nested body next, es, r =>
    Onward (body.Does conn (depth + 1)) (fun y => (next y).Does conn depth) es r

/-! ## Runs -/

/-- The program of a block inside a transaction at some depth. It yields the depth at its end too. -/
def Block.on (b : Block Program α) (h : Handle) (depth : UInt32) : Program (Except Stop α × UInt32) :=
  ((b h).run).run depth

section Runs

variable {b : Block Program α} {h : Handle} {depth depth' : UInt32} {es : List Event}

theorem runs_pure_on {a : α} {r : Except Stop α} :
    ((pure a : Block Program α).on h depth).Runs es (r, depth') ↔
      es = [] ∧ r = .ok a ∧ depth' = depth := by
  show es = [] ∧ (r, depth') = (.ok a, depth) ↔ _
  rw [Prod.mk.injEq]

theorem runs_throw_on {s : Stop} {r : Except Stop α} :
    ((throw s : Block Program α).on h depth).Runs es (r, depth') ↔
      es = [] ∧ r = .error s ∧ depth' = depth := by
  show es = [] ∧ (r, depth') = (.error s, depth) ↔ _
  rw [Prod.mk.injEq]

theorem runs_depth_on {r : Except Stop UInt32} :
    ((Transaction.depth : Block Program UInt32).on h depth).Runs es (r, depth') ↔
      es = [] ∧ r = .ok depth ∧ depth' = depth := by
  show es = [] ∧ (r, depth') = (.ok depth, depth) ↔ _
  rw [Prod.mk.injEq]

/-- A task inside a block leaves the depth alone. -/
theorem runs_lift_on {t : Task Program α} {r : Except Stop α} :
    ((lift t).on h depth).Runs es (r, depth') ↔ t.run.Runs es r ∧ depth' = depth := by
  show (t.run >>= fun x => Program.done (x, depth)).Runs es (r, depth') ↔ _
  rw [Program.runs_bind]
  constructor
  · rintro ⟨x, es₁, es₂, h₁, ⟨rfl, h₂⟩, rfl⟩
    cases h₂
    exact ⟨by simpa using h₁, rfl⟩
  · rintro ⟨h₁, rfl⟩
    exact ⟨r, es, [], h₁, ⟨rfl, rfl⟩, by simp⟩

/-- A part of a block, with what follows it. -/
theorem runs_attempt_bind_on {f : Except Error α → Block Program β} {r : Except Stop β} :
    ((attempt b >>= f).on h depth).Runs es (r, depth') ↔
      ∃ x depth₁ es₁ es₂, (b.on h depth).Runs es₁ (x, depth₁) ∧ es = es₁ ++ es₂ ∧
        match caught x with
        | .ok y => ((f y).on h depth₁).Runs es₂ (r, depth')
        | .error s => es₂ = [] ∧ r = .error s ∧ depth' = depth₁ := by
  have unfolded : (attempt b >>= f).on h depth = (b.on h depth >>= fun x =>
      match caught x.1 with
      | .ok y => (f y).on h x.2
      | .error s => Program.done (.error s, x.2)) := by
    show ((b.on h depth >>= fun x => Program.done (caught x.1, x.2)) >>= _) = _
    rw [Program.bind_assoc]
    congr 1
    funext x
    cases hx : caught x.1 <;> simp only [Program.done_bind] <;> rfl
  rw [unfolded, Program.runs_bind]
  constructor
  · rintro ⟨⟨x, depth₁⟩, es₁, es₂, h₁, h₂, rfl⟩
    refine ⟨x, depth₁, es₁, es₂, h₁, rfl, ?_⟩
    cases hx : caught x with
    | ok y => simpa only [hx] using h₂
    | error s =>
      simp only [hx, Program.runs_done, Prod.mk.injEq] at h₂
      exact h₂
  · rintro ⟨x, depth₁, es₁, es₂, h₁, rfl, h₂⟩
    refine ⟨(x, depth₁), es₁, es₂, h₁, ?_, rfl⟩
    cases hx : caught x with
    | ok y => simpa only [hx] using h₂
    | error s =>
      simp only [hx] at h₂
      simp only [Program.runs_done, Prod.mk.injEq]
      exact h₂

/-- A block inside a block runs one deeper, and leaves that depth only by a value or an error. -/
theorem runs_nested_on {r : Except Stop α} :
    ((nested b).on h depth).Runs es (r, depth') ↔
      ∃ depth₁, (b.on h (depth + 1)).Runs es (r, depth₁) ∧
        depth' = match caught r with
          | .ok _ => depth₁ - 1
          | .error _ => depth₁ := by
  have unfolded : (nested b).on h depth = (fun x => (x.1, match caught x.1 with
      | .ok _ => x.2 - 1
      | .error _ => x.2)) <$> b.on h (depth + 1) := by
    rw [map_eq_pure_bind]
    show (b.on h (depth + 1) >>= _) = _
    congr 1
    funext x
    obtain ⟨x, depth₁⟩ := x
    rcases x with (e | _ | _) | a <;> rfl
  rw [unfolded, Program.runs_map]
  constructor
  · rintro ⟨⟨x, depth₁⟩, h₁, h₂⟩
    cases h₂
    exact ⟨depth₁, h₁, rfl⟩
  · rintro ⟨depth₁, h₁, rfl⟩
    exact ⟨(r, depth₁), h₁, rfl⟩

theorem runs_call_on {k : Call α} {r : Except Stop α} :
    (k.block.on h depth).Runs es (r, depth') ↔ k.Does h.conn depth es r ∧ depth' = depth := by
  cases k with
  | execute sql =>
    show ((lift (Adapter.executeOn h.conn sql)).on h depth).Runs es (r, depth') ↔ _
    rw [runs_lift_on, Adapter.runs_executeOn, Call.Does]
  | query sql fetches read =>
    show ((lift (Adapter.queryOn h.conn sql fetches read)).on h depth).Runs es (r, depth') ↔ _
    rw [runs_lift_on, Adapter.runs_queryOn, Call.Does]
  | fetchAll sql =>
    show ((lift (Adapter.fetchAllOn h.conn sql)).on h depth).Runs es (r, depth') ↔ _
    rw [runs_lift_on, Adapter.runs_fetchAllOn, Call.Does]
  | listTables =>
    show ((lift (Backend.listTables h.conn)).on h depth).Runs es (r, depth') ↔ _
    rw [runs_lift_on, Call.Does]
    exact and_congr_left' Program.runs_request
  | depth => rw [Call.block, runs_depth_on, Call.Does, and_assoc]

/-! ## The runs of a block are what it does -/

/-- A run of a block does what the block does, and unless it breaks off it ends at the depth where it
    began. -/
theorem does_of_runs {code : Code α} {r : Except Stop α}
    (run : (code.block.on h depth).Runs es (r, depth')) :
    code.Does h.conn depth es r ∧ ((∃ y, caught r = .ok y) → depth' = depth) := by
  induction code generalizing depth es depth' with
  | value a =>
    obtain ⟨rfl, rfl, rfl⟩ := runs_pure_on.mp run
    exact ⟨⟨rfl, rfl⟩, fun _ => rfl⟩
  | fail e =>
    obtain ⟨rfl, rfl, rfl⟩ := runs_throw_on.mp run
    exact ⟨⟨rfl, rfl⟩, fun _ => rfl⟩
  | panic =>
    obtain ⟨rfl, rfl, rfl⟩ := runs_throw_on.mp run
    exact ⟨⟨rfl, rfl⟩, fun _ => rfl⟩
  | call k next ih =>
    obtain ⟨x, depth₁, es₁, es₂, h₁, rfl, h₂⟩ := runs_attempt_bind_on.mp run
    obtain ⟨h₁, rfl⟩ := runs_call_on.mp h₁
    cases hx : caught x with
    | ok y =>
      rw [hx] at h₂
      obtain ⟨h₂, hd⟩ := ih y h₂
      exact ⟨⟨x, es₁, es₂, h₁, rfl, by rwa [hx]⟩, hd⟩
    | error s =>
      rw [hx] at h₂
      obtain ⟨rfl, rfl, rfl⟩ := h₂
      exact ⟨⟨x, es₁, [], h₁, rfl, by rw [hx]; exact ⟨rfl, rfl⟩⟩, fun _ => rfl⟩
  | nested body next ihBody ihNext =>
    obtain ⟨x, depth₁, es₁, es₂, h₁, rfl, h₂⟩ := runs_attempt_bind_on.mp run
    obtain ⟨depth₂, hbody, hd₁⟩ := runs_nested_on.mp h₁
    obtain ⟨hbody, hd₂⟩ := ihBody hbody
    cases hx : caught x with
    | ok y =>
      rw [hx] at h₂ hd₁
      -- the depth is lowered again exactly because the inner block came back with a value or an error
      obtain rfl : depth₁ = depth := by
        rw [hd₁, hd₂ ⟨y, hx⟩]
        exact UInt32.add_sub_cancel depth 1
      obtain ⟨h₂, hd⟩ := ihNext y h₂
      exact ⟨⟨x, es₁, es₂, hbody, rfl, by rwa [hx]⟩, hd⟩
    | error s =>
      rw [hx] at h₂
      obtain ⟨rfl, rfl, rfl⟩ := h₂
      exact ⟨⟨x, es₁, [], hbody, rfl, by rw [hx]; exact ⟨rfl, rfl⟩⟩,
        fun ⟨y, hy⟩ => absurd hy (caught_error_ne_ok hx)⟩

/-- What a block does is a run of it. -/
theorem exists_runs_block {code : Code α} {r : Except Stop α}
    (does : code.Does h.conn depth es r) : ∃ depth', (code.block.on h depth).Runs es (r, depth') := by
  induction code generalizing depth es with
  | value a =>
    obtain ⟨rfl, rfl⟩ := does
    exact ⟨depth, runs_pure_on.mpr ⟨rfl, rfl, rfl⟩⟩
  | fail e =>
    obtain ⟨rfl, rfl⟩ := does
    exact ⟨depth, runs_throw_on.mpr ⟨rfl, rfl, rfl⟩⟩
  | panic =>
    obtain ⟨rfl, rfl⟩ := does
    exact ⟨depth, runs_throw_on.mpr ⟨rfl, rfl, rfl⟩⟩
  | call k next ih =>
    obtain ⟨x, es₁, es₂, h₁, rfl, h₂⟩ := does
    cases hx : caught x with
    | ok y =>
      rw [hx] at h₂
      obtain ⟨depth', h₂⟩ := ih y h₂
      exact ⟨depth', runs_attempt_bind_on.mpr
        ⟨x, depth, es₁, es₂, runs_call_on.mpr ⟨h₁, rfl⟩, rfl, by rwa [hx]⟩⟩
    | error s =>
      rw [hx] at h₂
      obtain ⟨rfl, rfl⟩ := h₂
      exact ⟨depth, runs_attempt_bind_on.mpr
        ⟨x, depth, es₁, [], runs_call_on.mpr ⟨h₁, rfl⟩, rfl, by rw [hx]; exact ⟨rfl, rfl, rfl⟩⟩⟩
  | nested body next ihBody ihNext =>
    obtain ⟨x, es₁, es₂, h₁, rfl, h₂⟩ := does
    obtain ⟨depth₁, h₁⟩ := ihBody h₁
    have hd := (does_of_runs h₁).2
    cases hx : caught x with
    | ok y =>
      rw [hx] at h₂
      obtain rfl : depth₁ = depth + 1 := hd ⟨y, hx⟩
      obtain ⟨depth', h₂⟩ := ihNext y h₂
      have inner : ((nested body.block).on h depth).Runs es₁ (x, depth) := by
        refine runs_nested_on.mpr ⟨depth + 1, h₁, ?_⟩
        rw [hx]
        exact (UInt32.add_sub_cancel depth 1).symm
      exact ⟨depth', runs_attempt_bind_on.mpr ⟨x, depth, es₁, es₂, inner, rfl, by rwa [hx]⟩⟩
    | error s =>
      rw [hx] at h₂
      obtain ⟨rfl, rfl⟩ := h₂
      exact ⟨depth₁, runs_attempt_bind_on.mpr
        ⟨x, depth₁, es₁, [], runs_nested_on.mpr ⟨depth₁, h₁, by rw [hx]⟩, rfl,
          by rw [hx]; exact ⟨rfl, rfl, rfl⟩⟩⟩

/-- The runs of a block are what it does. -/
theorem runs_block {code : Code α} {r : Except Stop α} :
    (∃ depth', (code.block.on h depth).Runs es (r, depth')) ↔ code.Does h.conn depth es r :=
  ⟨fun ⟨_, run⟩ => (does_of_runs run).1, exists_runs_block⟩

end Runs

end SqlMapper.Transaction
