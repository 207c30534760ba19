import SqlMapper.Proofs.Connection.Operation
import SqlMapper.Proofs.Database.Exchange

/-!
# The log of statements

Every statement is given to the log right before it is sent, and nothing else is. So the log of a whole
program, with its transactions and whatever fails in it, is what was sent on all connections in the same
order. The listing of tables is sent without being logged, and an operation that gets no connection logs
nothing.

* `Serial`, `SerialBlock`: programs that do one thing after the other, and blocks of their transactions.
* `LoggedFirst`: every statement is logged right before it is sent.
* `Serial.logsFirst`: it is, in every run of such a program.
* `Operation.endsRefused`: the refusal of a connection ends an operation.
* `logged_eq_sent`: what the log of a program is.
-/

namespace SqlMapper

/-! ## Specification -/

/-- The text that is given to the log. -/
def Event.logged? : Event → Option String
  | ⟨.log sql, _⟩ => some sql
  | _ => none

/-- The texts given to the log, in order. -/
def logged (es : List Event) : List String := es.filterMap Event.logged?

/-- How a task ended, as a value: what follows it goes on also after an error, a panic or a
    cancellation. -/
def Task.ended {m : Type → Type} [Monad m] {α : Type} (t : Task m α) : Task m (Except Stop α) :=
  ExceptT.mk (Except.ok <$> t.run)

mutual

/-- Programs of operations and transactions, one after the other, each chosen by how those before it
    ended. -/
inductive Serial : {α : Type} → Task Program α → Prop
  | stepwise {α : Type} {t : Task Program α} (statements : Stepwise t) : Serial t
  | transaction {α : Type} {b : Transaction.Block Program α} (inside : SerialBlock b) :
    Serial (Transaction.run b)
  | ended {α : Type} {t : Task Program α} (part : Serial t) : Serial t.ended
  | andThen {α β : Type} {t : Task Program β} {f : β → Task Program α} (part : Serial t)
    (next : ∀ x, Serial (f x)) : Serial (t >>= f)

/-- Blocks of transactions: calls through the handle, with blocks inside. Programs of the same adapter
    may stand between them, with transactions of their own. -/
inductive SerialBlock : {α : Type} → Transaction.Block Program α → Prop
  | value {α : Type} (a : α) : SerialBlock (pure a)
  | stop {α : Type} (s : Stop) : SerialBlock (throw s : Transaction.Block Program α)
  | call {α : Type} (k : Transaction.Call α) : SerialBlock k.block
  | outside {α : Type} {t : Task Program α} (part : Serial t) : SerialBlock (Transaction.lift t)
  | attempt {α : Type} {b : Transaction.Block Program α} (part : SerialBlock b) :
    SerialBlock (Transaction.attempt b)
  | nested {α : Type} {b : Transaction.Block Program α} (part : SerialBlock b) :
    SerialBlock (Transaction.nested b)
  | andThen {α β : Type} {b : Transaction.Block Program β} {f : β → Transaction.Block Program α}
    (part : SerialBlock b) (next : ∀ x, SerialBlock (f x)) : SerialBlock (b >>= f)

end

/-- Every statement is logged right before it is sent, and nothing else is logged. -/
inductive LoggedFirst : List Event → Prop
  | nothing : LoggedFirst []
  | quiet {e : Event} {es : List Event} (unlogged : e.logged? = none)
    (silent : ∀ x, e.exchange? = some x → x.sent = .tableList) (rest : LoggedFirst es) :
    LoggedFirst (e :: es)
  | statement {sql : String} {e : Event} {x : Exchange} {es : List Event}
    (exchange : e.exchange? = some x) (same : x.sent = .statement sql) (rest : LoggedFirst es) :
    LoggedFirst (⟨.log sql, ()⟩ :: e :: es)

variable {es es' : List Event}

/-! ## What is logged -/

theorem Event.logged?_of_exchange {e : Event} {x : Exchange} (h : e.exchange? = some x) :
    e.logged? = none := by
  obtain ⟨r, y⟩ := e
  cases r with
  | log => cases h
  | _ => rfl

namespace LoggedFirst

theorem append (h : LoggedFirst es) (h' : LoggedFirst es') : LoggedFirst (es ++ es') := by
  induction h with
  | nothing => exact h'
  | quiet unlogged silent _ ih => exact .quiet unlogged silent ih
  | statement exchange same _ ih => exact .statement exchange same ih

/-- The log is what was sent, without the listings of tables. -/
theorem sent_eq (h : LoggedFirst es) :
    (sent es).filter (· ≠ .tableList) = (logged es).map .statement := by
  induction h with
  | nothing => rfl
  | @quiet e es unlogged silent rest ih =>
    have hlog : logged (e :: es) = logged es := List.filterMap_cons_none unlogged
    rw [hlog, ← ih]
    cases hexchange : e.exchange? with
    | none => rw [sent_cons_of_none hexchange]
    | some x =>
      rw [sent_cons_of_some hexchange, silent x hexchange]
      rfl
  | @statement sql e x es exchange same rest ih =>
    have hlog : logged (⟨.log sql, ()⟩ :: e :: es) = sql :: logged es := by
      show sql :: (e :: es).filterMap Event.logged? = sql :: logged es
      rw [List.filterMap_cons_none (Event.logged?_of_exchange exchange)]
      rfl
    rw [hlog, sent_cons_of_none rfl, sent_cons_of_some exchange, same, List.map_cons, ← ih]
    rfl

/-! ## Statements -/

variable {conn : ConnectionId} {sql : String}

/-- An event that is no exchange. -/
theorem beside {e : Event} (unlogged : e.logged? = none) (unsent : e.exchange? = none)
    (rest : LoggedFirst es) : LoggedFirst (e :: es) := by
  refine .quiet unlogged (fun x hx => ?_) rest
  rw [unsent] at hx
  cases hx

theorem sending {x : Except Stop Outcome} : LoggedFirst (Adapter.sending conn sql x) :=
  .statement rfl rfl .nothing

theorem reading {fetches : Bool} {left : RowStream → RowStream} {x : Except Stop RowStream} :
    LoggedFirst (Adapter.reading conn sql fetches left x) := by
  cases x with
  | error s => exact .statement rfl rfl .nothing
  | ok stream =>
    refine .statement rfl rfl ?_
    cases fetches with
    | false => exact .nothing
    | true => exact beside rfl rfl .nothing

theorem listing {x : Except Stop (List String)} : LoggedFirst [⟨.listTables conn, x⟩] :=
  .quiet rfl (fun _ h => by cases h; rfl) .nothing

end LoggedFirst

/-! ## Operations -/

/-- In every run statements are logged before they are sent. -/
def LogsFirst {α : Type} (t : Task Program α) : Prop := ∀ es r, t.run.Runs es r → LoggedFirst es

theorem logsFirst_holding {α : Type} {body : ConnectionId → Task Program α}
    (inside : ∀ conn, LogsFirst (body conn)) : LogsFirst (Adapter.holding body) := by
  intro es r run
  rcases Adapter.runs_holding.mp run with ⟨s, rfl, rfl⟩ | ⟨conn, uses, hbody, rfl⟩
  · exact .beside rfl rfl .nothing
  · refine .beside rfl rfl ((inside conn _ _ hbody).append ?_)
    exact .beside rfl rfl .nothing

theorem logsFirst_andThen {α β : Type} {t : Task Program β} {f : β → Task Program α}
    (part : LogsFirst t) (next : ∀ x, LogsFirst (f x)) : LogsFirst (t >>= f) := by
  intro es r run
  rcases Task.runs_bind.mp run with ⟨s, h, rfl⟩ | ⟨a, es₁, es₂, h₁, h₂, rfl⟩
  · exact part _ _ h
  · exact (part _ _ h₁).append (next a _ _ h₂)

theorem Stepwise.logsFirst {α : Type} {t : Task Program α} (stepwise : Stepwise t) :
    LogsFirst t := by
  induction stepwise with
  | value a =>
    intro es r run
    obtain ⟨rfl, -⟩ := Task.runs_pure.mp run
    exact .nothing
  | stop s =>
    intro es r run
    obtain ⟨rfl, -⟩ := Task.runs_throw.mp run
    exact .nothing
  | execute sql =>
    refine logsFirst_holding fun conn es r run => ?_
    rw [Adapter.runs_executeOn.mp run]
    exact .sending
  | query sql qualified state onRow =>
    refine logsFirst_holding fun conn es r run => ?_
    obtain ⟨x, rfl, -⟩ := Adapter.runs_queryOn.mp run
    exact .reading
  | fetchAll sql =>
    refine logsFirst_holding fun conn es r run => ?_
    obtain ⟨x, rfl, -⟩ := Adapter.runs_fetchAllOn.mp run
    exact .reading
  | listTables =>
    refine logsFirst_holding fun conn es r run => ?_
    rw [Program.runs_request.mp run]
    exact .listing
  | andThen part next ihPart ihNext => exact logsFirst_andThen ihPart ihNext

/-! ## Transactions -/

namespace Transaction

variable {α : Type} {conn : ConnectionId}

theorem Call.Does.loggedFirst {k : Call α} {depth : UInt32} {r : Except Stop α}
    (does : k.Does conn depth es r) : LoggedFirst es := by
  cases k with
  | execute sql =>
    obtain rfl := does
    exact .sending
  | query sql fetches read =>
    obtain ⟨x, rfl, -⟩ := does
    exact .reading
  | fetchAll sql =>
    obtain ⟨x, rfl, -⟩ := does
    exact .reading
  | listTables =>
    obtain rfl := does
    exact .listing
  | depth =>
    obtain ⟨rfl, -⟩ := does
    exact .nothing

theorem loggedFirst_ifSent {sql : String} {answer? : Option (Except Stop Outcome)} :
    LoggedFirst (Lifecycle.ifSent conn sql answer?) := by
  cases answer? with
  | none => exact .nothing
  | some x => exact .sending

/-- In every run of a block statements are logged before they are sent. -/
def Block.LogsFirst (b : Block Program α) : Prop :=
  ∀ h depth es r depth', (b.on h depth).Runs es (r, depth') → LoggedFirst es

/-- With BEGIN, COMMIT and ROLLBACK. -/
theorem logsFirst_run {b : Block Program α} (inside : b.LogsFirst) : LogsFirst (run b) := by
  intro es r ran
  rcases runs_run_block.mp ran with ⟨s, rfl, rfl⟩ | ⟨conn, id, l, own, passage, rfl⟩
  · exact .beside rfl rfl .nothing
  · have hown : LoggedFirst own := by
      cases passage with
      | refused => exact .nothing
      | begun o ran ends =>
        obtain ⟨depth, ran⟩ := ran
        exact inside _ _ _ _ _ ran
    have hclosing : LoggedFirst [⟨.leave id, ()⟩] := .beside rfl rfl .nothing
    have hgiving : LoggedFirst [⟨.release conn l.unfinished, ()⟩] := .beside rfl rfl .nothing
    refine .beside rfl rfl (.append (.beside rfl rfl ?_) hgiving)
    exact (((LoggedFirst.sending.append hown).append loggedFirst_ifSent).append loggedFirst_ifSent).append
      hclosing

end Transaction

/-! ## Programs -/

/-- A block that is given by its syntax. -/
theorem Transaction.Code.serialBlock {α : Type} (code : Transaction.Code α) :
    SerialBlock code.block := by
  induction code with
  | value a => exact .value a
  | fail e => exact .stop (.failed e)
  | panic => exact .stop .panicked
  | call k next ih => exact .andThen (.attempt (.call k)) ih
  | nested body next ihBody ihNext => exact .andThen (.attempt (.nested ihBody)) ihNext

/-- All operations of an adapter are such programs. -/
theorem Serial.operation {α : Type} (op : Operation α) : Serial op.task := by
  cases op with
  | transaction code => exact .transaction code.serialBlock
  | _ => exact .stepwise (Operation.stepwise _ fun code h => by cases h)

theorem runs_ended {α : Type} {t : Task Program α} {r : Except Stop (Except Stop α)} :
    t.ended.run.Runs es r ↔ ∃ x, t.run.Runs es x ∧ r = .ok x :=
  Program.runs_map

-- The two kinds of programs contain each other, so this is one recursion on both derivations.
mutual

theorem Serial.logsFirst {α : Type} {t : Task Program α} (serial : Serial t) : LogsFirst t :=
  match serial with
  | .stepwise statements => statements.logsFirst
  | .transaction inside => Transaction.logsFirst_run inside.logsFirst
  | .ended part => by
    intro es r run
    obtain ⟨x, run, -⟩ := runs_ended.mp run
    exact part.logsFirst _ _ run
  | .andThen part next => logsFirst_andThen part.logsFirst fun x => (next x).logsFirst

theorem SerialBlock.logsFirst {α : Type} {b : Transaction.Block Program α} (serial : SerialBlock b) :
    b.LogsFirst :=
  match serial with
  | .value a => by
    intro h depth es r depth' run
    obtain ⟨rfl, -⟩ := Transaction.runs_pure_on.mp run
    exact .nothing
  | .stop s => by
    intro h depth es r depth' run
    obtain ⟨rfl, -⟩ := Transaction.runs_throw_on.mp run
    exact .nothing
  | .call k => by
    intro h depth es r depth' run
    exact (Transaction.runs_call_on.mp run).1.loggedFirst
  | .outside part => by
    intro h depth es r depth' run
    exact part.logsFirst _ _ (Transaction.runs_lift_on.mp run).1
  | .attempt part => by
    intro h depth es r depth' run
    obtain ⟨x, run, -⟩ := Transaction.runs_attempt_on.mp run
    exact part.logsFirst _ _ _ _ _ run
  | .nested part => by
    intro h depth es r depth' run
    obtain ⟨depth₁, run, -⟩ := Transaction.runs_nested_on.mp run
    exact part.logsFirst _ _ _ _ _ run
  | .andThen part next => by
    intro h depth es r depth' run
    obtain ⟨x, depth₁, es₁, es₂, h₁, rfl, h₂⟩ := Transaction.runs_bind_on.mp run
    refine (part.logsFirst _ _ _ _ _ h₁).append ?_
    cases x with
    | ok a => exact (next a).logsFirst _ _ _ _ _ h₂
    | error s =>
      obtain ⟨rfl, -⟩ := h₂
      exact .nothing

end

/-! ## Without a connection -/

/-- A connection is refused. -/
abbrev Event.refusal (s : Stop) : Event := ⟨.acquire, .error s⟩

/-- Wherever a connection is refused in a run, the run ends there with what the pool said. -/
def EndsRefused {α : Type} (t : Task Program α) : Prop :=
  ∀ before s after r, t.run.Runs (before ++ .refusal s :: after) r → after = [] ∧ r = .error s

theorem endsRefused_of_not_mem {α : Type} {t : Task Program α}
    (never : ∀ es r s, t.run.Runs es r → Event.refusal s ∉ es) : EndsRefused t := by
  intro before s after r run
  exact absurd (List.mem_append_right _ List.mem_cons_self) (never _ _ s run)

/-- Nothing is refused on a connection that is held. -/
theorem refusal_not_mem_hold {h : Hold} {s : Stop} : Event.refusal s ∉ h.events := by
  intro mem
  rcases List.mem_append.mp mem with mem | mem
  · rcases List.mem_cons.mp mem with heq | mem
    · cases heq
    · exact h.within _ mem
  · cases List.mem_singleton.mp mem

/-- One connection, or none. -/
theorem endsRefused_of_hold {α : Type} {t : Task Program α}
    (single : ∀ es r, t.run.Runs es r →
      (∃ s, es = [.refusal s] ∧ r = .error s) ∨ ∃ h : Hold, es = h.events) : EndsRefused t := by
  intro before s after r run
  rcases single _ _ run with ⟨s', heq, rfl⟩ | ⟨h, heq⟩
  · rcases List.append_eq_singleton_iff.mp heq with ⟨rfl, hrest⟩ | ⟨-, hrest⟩
    · cases hrest
      exact ⟨rfl, rfl⟩
    · cases hrest
  · exact absurd (heq ▸ List.mem_append_right _ List.mem_cons_self) refusal_not_mem_hold

theorem endsRefused_andThen {α β : Type} {t : Task Program β} {f : β → Task Program α}
    (part : EndsRefused t) (next : ∀ x, EndsRefused (f x)) : EndsRefused (t >>= f) := by
  intro before s after r run
  rcases Task.runs_bind.mp run with ⟨s', stopped, rfl⟩ | ⟨a, es₁, es₂, first, second, heq⟩
  · obtain ⟨hafter, hstop⟩ := part _ _ _ _ stopped
    cases hstop
    exact ⟨hafter, rfl⟩
  · rcases List.append_eq_append_iff.mp heq with ⟨middle, rfl, hrest⟩ | ⟨middle, rfl, rfl⟩
    · cases middle with
      | nil => exact next a [] s after r (hrest ▸ second)
      | cons e middle =>
        -- the first part would have ended with the refusal, and not with a value
        obtain ⟨rfl, -⟩ := List.cons.inj hrest
        obtain ⟨-, hstop⟩ := part _ _ _ _ first
        cases hstop
    · exact next a _ _ _ _ second

theorem Stepwise.endsRefused {α : Type} {t : Task Program α} (stepwise : Stepwise t) :
    EndsRefused t := by
  have holding {β : Type} {body : ConnectionId → Task Program β} (on : StaysOn body) :
      EndsRefused (Adapter.holding body) := by
    refine endsRefused_of_hold fun es r run => ?_
    rcases on.runs_holding run with refused | ⟨h, -, heq⟩
    · exact .inl refused
    · exact .inr ⟨h, heq⟩
  induction stepwise with
  | value a =>
    apply endsRefused_of_not_mem
    intro es r s run
    obtain ⟨rfl, -⟩ := Task.runs_pure.mp run
    exact List.not_mem_nil
  | stop s =>
    apply endsRefused_of_not_mem
    intro es r s run
    obtain ⟨rfl, -⟩ := Task.runs_throw.mp run
    exact List.not_mem_nil
  | execute sql => exact holding (.execute sql)
  | query sql qualified state onRow => exact holding (.query sql true _)
  | fetchAll sql => exact holding (.fetchAll sql)
  | listTables => exact holding .listTables
  | andThen part next ihPart ihNext => exact endsRefused_andThen ihPart ihNext

/-- A transaction is one hold as well, and an operation of several parts ends with the part that gets no
    connection. -/
theorem Operation.endsRefused {α : Type} (op : Operation α) : EndsRefused op.task := by
  cases op with
  | transaction code =>
    refine endsRefused_of_hold fun es r run => ?_
    rcases Transaction.runs_run.mp run with refused | ⟨conn, id, l, own, course, rfl⟩
    · exact .inl refused
    · exact .inr ⟨⟨conn, l.uses conn id own, l.unfinished, course.within⟩, rfl⟩
  | _ => exact (Operation.stepwise _ fun code h => by cases h).endsRefused

theorem Transaction.runs_run_refused {α : Type} {b : Block Program α} {s : Stop} {after : List Event}
    {r : Except Stop α} (run : (run b).run.Runs (.refusal s :: after) r) :
    after = [] ∧ r = .error s := by
  rcases Transaction.runs_run_block.mp run with ⟨s', heq, rfl⟩ | ⟨conn, id, l, own, -, heq⟩
  · cases heq
    exact ⟨rfl, rfl⟩
  · cases heq

/-! ## The log of a program -/

/-- **The log is what was sent.** For every program of operations and transactions, one after the other
    and one inside the other, and for all answers of the pool and of the driver: the texts that were
    logged are the statements that were sent on all connections, in that order, with BEGIN, COMMIT and
    ROLLBACK; of all that was sent only the listings of tables are missing. An operation that is refused
    a connection ends there, and logs nothing but what its earlier parts have sent. A transaction that
    is refused its connection does nothing at all. -/
theorem logged_eq_sent :
    (∀ {α : Type} (t : Task Program α), Serial t → ∀ es r, t.run.Runs es r →
      (sent es).filter (· ≠ .tableList) = (logged es).map .statement) ∧
    (∀ {α : Type} (op : Operation α) before s after r,
      (op.task : Task Program α).run.Runs (before ++ .refusal s :: after) r → after = [] ∧ r = .error s ∧
        (sent before).filter (· ≠ .tableList) =
          (logged (before ++ .refusal s :: after)).map .statement) ∧
    ∀ {α : Type} (b : Transaction.Block Program α) s after r,
      (Transaction.run b).run.Runs (.refusal s :: after) r → after = [] ∧ r = .error s := by
  refine ⟨?_, ?_, ?_⟩
  · intro α t serial es r run
    exact (serial.logsFirst es r run).sent_eq
  · intro α op before s after r run
    obtain ⟨rfl, rfl⟩ := op.endsRefused _ _ _ _ run
    have hsent := ((Serial.operation op).logsFirst _ _ run).sent_eq
    have hnothing : sent [Event.refusal s] = [] := rfl
    rw [sent_append, hnothing, List.append_nil] at hsent
    exact ⟨rfl, rfl, hsent⟩
  · intro α b s after r run
    exact Transaction.runs_run_refused run

/-- A transaction that is rolled back because of its only statement, and then a listing of tables. -/
def rolledBackThenListed : Task Program (List String) := do
  let code : Transaction.Code Unit := .call (.execute "DELETE FROM t") fun
    | .ok _ => .value ()
    | .error e => .fail e
  let _ ← (Transaction.run code.block).ended
  Adapter.listTables

theorem serial_rolledBackThenListed : Serial rolledBackThenListed :=
  (Serial.transaction (Transaction.Code.serialBlock _)).ended.andThen fun _ => .stepwise .listTables

theorem logged_rolledBackThenListed : Serial rolledBackThenListed ∧
    ∃ es, rolledBackThenListed.run.Runs es (.ok ["t"]) ∧
      logged es = ["BEGIN", "DELETE FROM t", "ROLLBACK"] ∧
      sent es = [.statement "BEGIN", .statement "DELETE FROM t", .statement "ROLLBACK", .tableList] ∧
      (sent es).filter (· ≠ .tableList) = (logged es).map .statement := by
  let refused : Error := .database "refused" (some "HY000") "none"
  let es : List Event := ⟨.acquire, .ok 1⟩ :: ⟨.enter, ⟨0⟩⟩ ::
    (Adapter.sending 1 "BEGIN" (.ok ⟨0, none⟩) ++
      Adapter.sending 1 "DELETE FROM t" (.error (.failed refused)) ++
      Adapter.sending 1 "ROLLBACK" (.ok ⟨0, none⟩) ++
      [⟨.leave ⟨0⟩, ()⟩, ⟨.release 1 false, ()⟩, ⟨.acquire, .ok 1⟩, ⟨.listTables 1, .ok ["t"]⟩,
        ⟨.release 1 false, ()⟩])
  have run : rolledBackThenListed.run.Runs es (.ok ["t"]) :=
    ⟨_, _, rfl, _, _, rfl, _, _, rfl, _, _, rfl, _, _, rfl, _, _, rfl, _, _, rfl, _, _, rfl, _, _, rfl,
      _, _, rfl, _, _, rfl, _, _, rfl, _, _, rfl, rfl, rfl⟩
  exact ⟨serial_rolledBackThenListed, es, run, rfl, rfl,
    logged_eq_sent.1 _ serial_rolledBackThenListed es _ run⟩

end SqlMapper
