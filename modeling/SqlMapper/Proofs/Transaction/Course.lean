import SqlMapper.Proofs.Transaction.Block

/-!
# The course of a transaction

What a whole transaction asks for, from taking its connection to giving it back, and what it yields: for
every block, and for every answer to every request.

* `Lifecycle`: how BEGIN, COMMIT and ROLLBACK were answered, where they were sent.
* `Concludes`: the end of a transaction after its block.
* `Passage`: a whole transaction with any block; `Course`: with a block given by its syntax.
* `runs_run_block`, `runs_run`: the runs of a transaction are its passages, and its courses.
* `run_sends_iff`: the statements that a transaction sends, and its result.
-/

namespace SqlMapper.Transaction

open Adapter (sending)

variable {α : Type} {conn : ConnectionId} {es : List Event}

/-! ## Specification -/

/-- How the statements were answered that begin and end a transaction; none for one that was not sent. -/
structure Lifecycle where
  begun : Except Stop Outcome
  commit? : Option (Except Stop Outcome)
  rollback? : Option (Except Stop Outcome)

namespace Lifecycle

/-- BEGIN succeeded, and neither COMMIT nor ROLLBACK did. -/
def unfinished (l : Lifecycle) : Bool :=
  l.begun.isOk && !l.commit?.any Except.isOk && !l.rollback?.any Except.isOk

/-- A statement, if it was sent. -/
def ifSent (conn : ConnectionId) (sql : String) : Option (Except Stop Outcome) → List Event
  | some answer => sending conn sql answer
  | none => []

/-- What is asked for between taking the connection and giving it back, where `own` is what the block
    asks for. -/
def uses (l : Lifecycle) (conn : ConnectionId) (id : TransactionId) (own : List Event) : List Event :=
  ⟨.enter, id⟩ :: sending conn "BEGIN" l.begun ++ own ++ ifSent conn "COMMIT" l.commit? ++
    ifSent conn "ROLLBACK" l.rollback? ++ [⟨.leave id, ()⟩]

end Lifecycle

/-- The error that led to ROLLBACK, whether or not that fails. -/
def undone (e : Error) : Except Stop Outcome → Except Stop α
  | .ok _ => .error (.failed e)
  | .error (.failed _) => .error (.failed e)
  | .error .panicked => .error .panicked
  | .error .cancelled => .error .cancelled

/-- How a transaction ends whose block ended with the given result: the answers to COMMIT and to
    ROLLBACK, and the result of the transaction. -/
inductive Concludes :
    Except Stop α → Option (Except Stop Outcome) → Option (Except Stop Outcome) → Except Stop α → Prop
  | committed (a : α) (o : Outcome) : Concludes (.ok a) (some (.ok o)) none (.ok a)
  | uncommitted (a : α) (e : Error) (undo : Except Stop Outcome) :
    Concludes (.ok a) (some (.error (.failed e))) (some undo) (undone e undo)
  | rolledBack (e : Error) (undo : Except Stop Outcome) :
    Concludes (.error (.failed e)) none (some undo) (undone e undo)
  /-- COMMIT was given up. -/
  | abandoned (a : α) {s : Stop} (hs : ∀ e, s ≠ .failed e) :
    Concludes (.ok a) (some (.error s)) none (.error s)
  /-- The block panicked or was given up. -/
  | brokenOff {s : Stop} (hs : ∀ e, s ≠ .failed e) : Concludes (.error s) none none (.error s)

/-- A transaction whose block asks and ends as `does` says: the answers to its own statements, what its
    block asks for, and its result. If BEGIN fails the block is not run. -/
inductive Passage (does : List Event → Except Stop α → Prop) :
    Lifecycle → List Event → Except Stop α → Prop
  | refused (s : Stop) : Passage does ⟨.error s, none, none⟩ [] (.error s)
  | begun (o : Outcome) {own : List Event} {x r : Except Stop α}
    {commit? rollback? : Option (Except Stop Outcome)} (ran : does own x)
    (ends : Concludes x commit? rollback? r) : Passage does ⟨.ok o, commit?, rollback?⟩ own r

/-- A transaction on a connection: the answers to its own statements, what its block asks for, and its
    result. If BEGIN fails the block is not run. -/
inductive Course (conn : ConnectionId) (code : Code α) : Lifecycle → List Event → Except Stop α → Prop
  | refused (s : Stop) : Course conn code ⟨.error s, none, none⟩ [] (.error s)
  | begun (o : Outcome) {own : List Event} {x r : Except Stop α}
    {commit? rollback? : Option (Except Stop Outcome)} (does : code.Does conn 0 own x)
    (ends : Concludes x commit? rollback? r) : Course conn code ⟨.ok o, commit?, rollback?⟩ own r

/-! ## The end of a transaction -/

theorem runs_rollback {e : Error} {r : Except Stop α} {stillOpen : Bool} :
    (rollback conn e : Program (Except Stop α × Bool)).Runs es (r, stillOpen) ↔
      ∃ undo, es = sending conn "ROLLBACK" undo ∧ r = undone e undo ∧ stillOpen = !undo.isOk := by
  unfold rollback
  rw [Program.runs_bind]
  constructor
  · rintro ⟨undo, _, _, h, h₂, rfl⟩
    rw [Adapter.runs_executeOn.mp h]
    refine ⟨undo, ?_⟩
    rcases undo with (e' | _ | _) | o
    all_goals
      obtain ⟨rfl, h₂⟩ := h₂
      cases h₂
      exact ⟨List.append_nil _, rfl, rfl⟩
  · rintro ⟨undo, rfl, rfl, rfl⟩
    refine ⟨undo, _, [], Adapter.runs_executeOn.mpr rfl, ?_, (List.append_nil _).symm⟩
    rcases undo with (e' | _ | _) | o
    all_goals exact ⟨rfl, rfl⟩

/-- After a value COMMIT is sent, and ROLLBACK if that fails. -/
theorem runs_conclude_ok {a : α} {r : Except Stop α} {stillOpen : Bool} :
    (conclude conn (.ok a) : Program (Except Stop α × Bool)).Runs es (r, stillOpen) ↔
      ∃ x rest, es = sending conn "COMMIT" x ++ rest ∧
        match x with
        | .ok _ => rest = [] ∧ r = .ok a ∧ stillOpen = false
        | .error (.failed e) =>
          (rollback conn e : Program (Except Stop α × Bool)).Runs rest (r, stillOpen)
        | .error s => rest = [] ∧ r = .error s ∧ stillOpen = true := by
  unfold conclude
  rw [Program.runs_bind]
  constructor
  · rintro ⟨x, _, rest, h, h₂, rfl⟩
    rw [Adapter.runs_executeOn.mp h]
    refine ⟨x, rest, rfl, ?_⟩
    rcases x with (e | _ | _) | o
    case error.failed => exact h₂
    all_goals
      obtain ⟨rfl, h₂⟩ := h₂
      cases h₂
      exact ⟨rfl, rfl, rfl⟩
  · rintro ⟨x, rest, rfl, h₂⟩
    refine ⟨x, _, rest, Adapter.runs_executeOn.mpr rfl, ?_, rfl⟩
    rcases x with (e | _ | _) | o
    case error.failed => exact h₂
    all_goals
      obtain ⟨rfl, rfl, rfl⟩ := h₂
      exact ⟨rfl, rfl⟩

theorem runs_conclude {x r : Except Stop α} {stillOpen : Bool} :
    (conclude conn x : Program (Except Stop α × Bool)).Runs es (r, stillOpen) ↔
      ∃ commit? rollback?, Concludes x commit? rollback? r ∧
        es = Lifecycle.ifSent conn "COMMIT" commit? ++ Lifecycle.ifSent conn "ROLLBACK" rollback? ∧
        stillOpen = (!commit?.any Except.isOk && !rollback?.any Except.isOk) := by
  constructor
  · intro run
    rcases x with (e | _ | _) | a
    case error.failed =>
      obtain ⟨undo, rfl, rfl, rfl⟩ := runs_rollback.mp run
      exact ⟨none, some undo, .rolledBack e undo, rfl, by simp⟩
    case ok =>
      obtain ⟨x, rest, rfl, h⟩ := runs_conclude_ok.mp run
      rcases x with (e | _ | _) | o
      case error.failed =>
        obtain ⟨undo, rfl, rfl, rfl⟩ := runs_rollback.mp h
        exact ⟨_, some undo, .uncommitted a e undo, rfl, by simp [Except.isOk, Except.toBool]⟩
      case ok =>
        obtain ⟨rfl, rfl, rfl⟩ := h
        exact ⟨some (.ok o), none, .committed a o, rfl, rfl⟩
      all_goals
        obtain ⟨rfl, rfl, rfl⟩ := h
        exact ⟨_, none, .abandoned a (by simp), rfl, rfl⟩
    all_goals
      obtain ⟨rfl, h⟩ := run
      cases h
      exact ⟨none, none, .brokenOff (by simp), rfl, rfl⟩
  · rintro ⟨commit?, rollback?, ends, rfl, rfl⟩
    cases ends with
    | committed a o => exact runs_conclude_ok.mpr ⟨.ok o, [], rfl, rfl, rfl, rfl⟩
    | uncommitted a e undo =>
      exact runs_conclude_ok.mpr ⟨.error (.failed e), _, rfl,
        runs_rollback.mpr ⟨undo, rfl, rfl, by simp [Except.isOk, Except.toBool]⟩⟩
    | rolledBack e undo => exact runs_rollback.mpr ⟨undo, rfl, rfl, by simp⟩
    | @abandoned a s hs =>
      refine runs_conclude_ok.mpr ⟨.error s, [], rfl, ?_⟩
      cases s with
      | failed e => exact absurd rfl (hs e)
      | panicked | cancelled => exact ⟨rfl, rfl, rfl⟩
    | @brokenOff s hs =>
      cases s with
      | failed e => exact absurd rfl (hs e)
      | panicked | cancelled => exact ⟨rfl, rfl⟩

/-! ## A whole transaction -/

/-- At its end a transaction removes its mark, and then gives its connection back. -/
theorem runs_leave_release {id : TransactionId} {discard : Bool} {x r : Except Stop α} :
    (do
      Backend.leave id
      Backend.release conn discard
      return x : Program (Except Stop α)).Runs es r ↔
      es = [⟨.leave id, ()⟩, ⟨.release conn discard, ()⟩] ∧ r = x := by
  simp only [Program.runs_bind]
  constructor
  · rintro ⟨_, _, _, h₁, ⟨_, _, _, h₂, ⟨rfl, rfl⟩, rfl⟩, rfl⟩
    rw [Program.runs_request.mp h₁, Program.runs_request.mp h₂]
    exact ⟨rfl, rfl⟩
  · rintro ⟨rfl, rfl⟩
    exact ⟨(), _, _, Program.runs_request.mpr rfl,
      ⟨(), _, [], Program.runs_request.mpr rfl, ⟨rfl, rfl⟩, rfl⟩, rfl⟩

/-- How a block runs inside a transaction: its requests and its result. The depth at its end is left
    out. -/
def Block.RunsIn (b : Block Program α) (h : Handle) (own : List Event) (x : Except Stop α) : Prop :=
  ∃ depth, (b.on h 0).Runs own (x, depth)

/-- What a transaction does once BEGIN has succeeded. -/
theorem runs_begun {b : Block Program α} {id : TransactionId} {r : Except Stop α} :
    (do
      let (result, _) ← ((b ⟨conn, id⟩).run).run 0
      let (result, stillOpen) ← conclude conn result
      Backend.leave id
      Backend.release conn stillOpen
      return result : Program (Except Stop α)).Runs es r ↔
      ∃ own x commit? rollback?, b.RunsIn ⟨conn, id⟩ own x ∧ Concludes x commit? rollback? r ∧
        es = own ++ Lifecycle.ifSent conn "COMMIT" commit? ++
          Lifecycle.ifSent conn "ROLLBACK" rollback? ++ [⟨.leave id, ()⟩,
            ⟨.release conn (!commit?.any Except.isOk && !rollback?.any Except.isOk), ()⟩] := by
  rw [Program.runs_bind]
  constructor
  · rintro ⟨⟨x, depth⟩, own, _, hblock, h, rfl⟩
    obtain ⟨⟨r', stillOpen⟩, _, _, hend, h, rfl⟩ := Program.runs_bind.mp h
    obtain ⟨commit?, rollback?, ends, rfl, rfl⟩ := runs_conclude.mp hend
    obtain ⟨rfl, rfl⟩ := runs_leave_release.mp h
    exact ⟨own, x, commit?, rollback?, ⟨depth, hblock⟩, ends, by simp⟩
  · rintro ⟨own, x, commit?, rollback?, ⟨depth, hblock⟩, ends, rfl⟩
    refine ⟨(x, depth), own, _, hblock, Program.runs_bind.mpr ⟨(r, _), _, _,
      runs_conclude.mpr ⟨commit?, rollback?, ends, rfl, rfl⟩,
      runs_leave_release.mpr ⟨rfl, rfl⟩, rfl⟩, ?_⟩
    simp

/-- What a transaction asks for on a connection that it has taken. -/
theorem runs_runOn {b : Block Program α} {r : Except Stop α} :
    (runOn conn b : Program (Except Stop α)).Runs es r ↔
      ∃ id l own, Passage (b.RunsIn ⟨conn, id⟩) l own r ∧
        es = l.uses conn id own ++ [⟨.release conn l.unfinished, ()⟩] := by
  unfold runOn
  rw [Program.runs_bind]
  constructor
  · rintro ⟨id, _, _, henter, h, rfl⟩
    rw [Program.runs_request.mp henter]
    obtain ⟨x, _, _, hbegin, h, rfl⟩ := Program.runs_bind.mp h
    rw [Adapter.runs_executeOn.mp hbegin]
    cases x with
    | error s =>
      obtain ⟨rfl, rfl⟩ := runs_leave_release.mp h
      exact ⟨id, _, [], .refused s, rfl⟩
    | ok o =>
      obtain ⟨own, x, commit?, rollback?, ran, ends, rfl⟩ := runs_begun.mp h
      exact ⟨id, _, own, .begun o ran ends,
        by simp [Lifecycle.uses, Lifecycle.unfinished, Except.isOk, Except.toBool]⟩
  · rintro ⟨id, l, own, passage, rfl⟩
    cases passage with
    | refused s =>
      exact ⟨id, _, _, Program.runs_request.mpr rfl, Program.runs_bind.mpr ⟨.error s, _, _,
        Adapter.runs_executeOn.mpr rfl, runs_leave_release.mpr ⟨rfl, rfl⟩, rfl⟩, rfl⟩
    | begun o ran ends =>
      refine ⟨id, _, _, Program.runs_request.mpr rfl, Program.runs_bind.mpr ⟨.ok o, _, _,
        Adapter.runs_executeOn.mpr rfl, runs_begun.mpr ⟨_, _, _, _, ran, ends, rfl⟩, rfl⟩, ?_⟩
      simp [Lifecycle.uses, Lifecycle.unfinished, Except.isOk, Except.toBool]

/-- The runs of a transaction with any block, on a connection that it takes and gives back. -/
theorem runs_run_block {b : Block Program α} {r : Except Stop α} :
    (run b : Task Program α).run.Runs es r ↔
      (∃ s, es = [⟨.acquire, .error s⟩] ∧ r = .error s) ∨
        ∃ conn id l own, Passage (b.RunsIn ⟨conn, id⟩) l own r ∧
          es = ⟨.acquire, .ok conn⟩ :: l.uses conn id own ++ [⟨.release conn l.unfinished, ()⟩] := by
  unfold run
  rw [ExceptT.run_mk, Program.runs_bind]
  constructor
  · rintro ⟨x, _, _, h, h₂, rfl⟩
    rw [Program.runs_request.mp h]
    cases x with
    | error s =>
      obtain ⟨rfl, rfl⟩ := h₂
      exact .inl ⟨s, rfl, rfl⟩
    | ok conn =>
      obtain ⟨id, l, own, passage, rfl⟩ := runs_runOn.mp h₂
      exact .inr ⟨conn, id, l, own, passage, rfl⟩
  · rintro (⟨s, rfl, rfl⟩ | ⟨conn, id, l, own, passage, rfl⟩)
    · exact ⟨.error s, _, [], Program.runs_request.mpr rfl, ⟨rfl, rfl⟩, rfl⟩
    · exact ⟨.ok conn, _, _, Program.runs_request.mpr rfl,
        runs_runOn.mpr ⟨id, l, own, passage, rfl⟩, rfl⟩

/-- For a block that is given by its syntax the requests are those that the syntax says. -/
theorem passage_iff_course {code : Code α} {id : TransactionId} {l : Lifecycle} {own : List Event}
    {r : Except Stop α} :
    Passage (Block.RunsIn code.block ⟨conn, id⟩) l own r ↔ Course conn code l own r := by
  have does {own x} : Block.RunsIn code.block ⟨conn, id⟩ own x ↔ code.Does conn 0 own x := runs_block
  constructor
  · rintro (s | ⟨o, ran, ends⟩)
    · exact .refused s
    · exact .begun o (does.mp ran) ends
  · rintro (s | ⟨o, ran, ends⟩)
    · exact .refused s
    · exact .begun o (does.mpr ran) ends

/-- The runs of a transaction are its courses, on a connection that it takes and gives back. -/
theorem runs_run {code : Code α} {r : Except Stop α} :
    (run code.block : Task Program α).run.Runs es r ↔
      (∃ s, es = [⟨.acquire, .error s⟩] ∧ r = .error s) ∨
        ∃ conn id l own, Course conn code l own r ∧
          es = ⟨.acquire, .ok conn⟩ :: l.uses conn id own ++ [⟨.release conn l.unfinished, ()⟩] := by
  simp only [runs_run_block, passage_iff_course]

/-! ## Statements and result -/

/-- Whether a request is a statement on a connection. -/
def isSent : Event → Bool
  | ⟨.execute _ _, _⟩ | ⟨.query _ _ _, _⟩ | ⟨.listTables _, _⟩ => true
  | _ => false

/-- The answer to a statement of the transaction itself, as a statement. -/
def sent (conn : ConnectionId) (sql : String) (answer : Except Stop Outcome) : Event :=
  ⟨.execute conn sql, answer⟩

theorem filter_isSent_ifSent {sql : String} {answer? : Option (Except Stop Outcome)} :
    (Lifecycle.ifSent conn sql answer?).filter isSent = (answer?.map (sent conn sql)).toList := by
  cases answer? <;> rfl

/-- The statements on a connection while a transaction has it. -/
theorem filter_isSent_uses {l : Lifecycle} {id : TransactionId} {own : List Event} {discard : Bool} :
    (⟨.acquire, .ok conn⟩ :: l.uses conn id own ++ [⟨.release conn discard, ()⟩] : List Event).filter
      isSent =
      sent conn "BEGIN" l.begun :: own.filter isSent ++ (l.commit?.map (sent conn "COMMIT")).toList ++
        (l.rollback?.map (sent conn "ROLLBACK")).toList := by
  have leaving : ([⟨.leave id, ()⟩] : List Event).filter isSent = [] := rfl
  have giving : ([⟨.release conn discard, ()⟩] : List Event).filter isSent = [] := rfl
  have beginning : (⟨.acquire, .ok conn⟩ :: ⟨.enter, id⟩ :: sending conn "BEGIN" l.begun :
      List Event).filter isSent = [sent conn "BEGIN" l.begun] := rfl
  unfold Lifecycle.uses
  rw [← List.cons_append, ← List.cons_append, ← List.cons_append, ← List.cons_append]
  simp only [List.filter_append, beginning, leaving, giving, filter_isSent_ifSent, List.append_nil,
    List.singleton_append]

/-- **The law of a transaction.** With any block and any driver, a transaction that gets a connection
    sends BEGIN; if that succeeds, the statements of the block and of the blocks inside it, and nothing
    for these blocks themselves; and at the end COMMIT or ROLLBACK as `Concludes` says. -/
theorem run_sends_iff {code : Code α} {ss : List Event} {r : Except Stop α} :
    (∃ es, (run code.block : Task Program α).run.Runs es r ∧ es.filter isSent = ss) ↔
      (∃ s, ss = [] ∧ r = .error s) ∨
        ∃ conn l own, Course conn code l own r ∧
          ss = sent conn "BEGIN" l.begun :: own.filter isSent ++
            (l.commit?.map (sent conn "COMMIT")).toList ++
            (l.rollback?.map (sent conn "ROLLBACK")).toList := by
  constructor
  · rintro ⟨es, h, rfl⟩
    rcases runs_run.mp h with ⟨s, rfl, rfl⟩ | ⟨conn, id, l, own, course, rfl⟩
    · exact .inl ⟨s, rfl, rfl⟩
    · exact .inr ⟨conn, l, own, course, filter_isSent_uses⟩
  · rintro (⟨s, rfl, rfl⟩ | ⟨conn, l, own, course, rfl⟩)
    · exact ⟨_, runs_run.mpr (.inl ⟨s, rfl, rfl⟩), rfl⟩
    · exact ⟨_, runs_run.mpr (.inr ⟨conn, ⟨0⟩, l, own, course, rfl⟩), filter_isSent_uses⟩

end SqlMapper.Transaction
