import SqlMapper.Proofs.Transaction.Course

/-!
# Transactions that are given up

A transaction can be given up wherever it waits: while BEGIN, COMMIT or ROLLBACK is in flight, and
anywhere inside its block. It has no say in what the server does then. So its connection should be closed
whenever the driver's answers leave it open whether a transaction is still running there. Not every error
of the driver says that a statement has failed: one that says that time ran out need not. So which errors
do is left open.

* `MayBeOpen`: the answers leave it open whether a transaction is running.
* `run_discards_iff`: the connection is closed in all these cases exactly if the driver has said of BEGIN
  whether it succeeded or failed.
* `not_discarded_while_beginning`: a transaction that is given up while BEGIN is in flight.
-/

namespace SqlMapper.Transaction

open Adapter (sending)

variable {α : Type} {conn : ConnectionId} {fails : Error → Prop}

/-! ## Specification -/

/-- A transaction may be running on a connection: BEGIN was sent and the driver has not reported that it
    failed, and of the COMMITs and ROLLBACKs that were sent later none has been reported successful. The
    errors that report a failure are given by `fails`. -/
def MayBeOpen (fails : Error → Prop) (conn : ConnectionId) (es : List Event) : Prop :=
  ∃ before answer after, es = before ++ ⟨.execute conn "BEGIN", answer⟩ :: after ∧
    (∀ e, answer = .error (.failed e) → ¬ fails e) ∧
    ∀ o, ⟨.execute conn "COMMIT", .ok o⟩ ∉ after ∧ ⟨.execute conn "ROLLBACK", .ok o⟩ ∉ after

/-- The driver has said of a statement whether it succeeded or failed. -/
def Reported (fails : Error → Prop) (answer : Except Stop Outcome) : Prop :=
  ∀ s, answer = .error s → ∃ e, s = .failed e ∧ fails e

/-! ## The end of a transaction -/

/-- What does not occur in the last part of a list is followed by all of that part. -/
theorem suffix_of_not_mem {β : Type} {before after first last : List β} {b : β}
    (h : before ++ b :: after = first ++ last) (hb : b ∉ last) : last <:+ after := by
  rcases List.append_eq_append_iff.mp h with ⟨mid, -, hmid⟩ | ⟨mid, -, hmid⟩
  · cases mid with
    | nil =>
      rw [List.nil_append] at hmid
      exact absurd (hmid ▸ List.mem_cons_self) hb
    | cons b' mid =>
      obtain ⟨-, rfl⟩ := List.cons.inj hmid
      exact List.suffix_append mid last
  · exact absurd (hmid ▸ List.mem_append_right mid List.mem_cons_self) hb

/-- What a transaction does after its block. -/
def closing (l : Lifecycle) (conn : ConnectionId) (id : TransactionId) : List Event :=
  Lifecycle.ifSent conn "COMMIT" l.commit? ++ Lifecycle.ifSent conn "ROLLBACK" l.rollback? ++
    [⟨.leave id, ()⟩, ⟨.release conn l.unfinished, ()⟩]

section Closing

variable {l : Lifecycle} {id : TransactionId} {o : Outcome}

theorem begin_not_mem_ifSent {sql : String} (hsql : sql ≠ "BEGIN") {answer : Except Stop Outcome}
    {answer? : Option (Except Stop Outcome)} :
    (⟨.execute conn "BEGIN", answer⟩ : Event) ∉ Lifecycle.ifSent conn sql answer? := by
  cases answer? with
  | none => exact List.not_mem_nil
  | some x =>
    intro h
    rcases List.mem_cons.mp h with h | h
    · cases h
    · cases List.mem_singleton.mp h
      exact hsql rfl

/-- After its block a transaction sends no BEGIN. -/
theorem begin_not_mem_closing {answer : Except Stop Outcome} :
    (⟨.execute conn "BEGIN", answer⟩ : Event) ∉ closing l conn id := by
  intro h
  rcases List.mem_append.mp h with h | h
  · rcases List.mem_append.mp h with h | h
    · exact begin_not_mem_ifSent (by decide) h
    · exact begin_not_mem_ifSent (by decide) h
  · rcases List.mem_cons.mp h with h | h
    · cases h
    · cases List.mem_singleton.mp h

/-- A transaction that is finished after BEGIN has succeeded has had COMMIT or ROLLBACK reported
    successful. -/
theorem exists_mem_closing (conn : ConnectionId) (id : TransactionId) (hbegun : l.begun = .ok o)
    (h : l.unfinished = false) :
    ∃ o', (⟨.execute conn "COMMIT", .ok o'⟩ : Event) ∈ closing l conn id ∨
      (⟨.execute conn "ROLLBACK", .ok o'⟩ : Event) ∈ closing l conn id := by
  have answered : ∀ {answer? : Option (Except Stop Outcome)}, answer?.any Except.isOk = true →
      ∃ o', answer? = some (.ok o') := by
    intro answer? hok
    rcases answer? with _ | s | o'
    · cases hok
    · cases hok
    · exact ⟨o', rfl⟩
  have sent : ∀ {sql : String} {o' : Outcome},
      (⟨.execute conn sql, .ok o'⟩ : Event) ∈ Lifecycle.ifSent conn sql (some (.ok o')) := by
    intro sql o'
    exact List.mem_cons_of_mem _ List.mem_cons_self
  have ended : l.commit?.any Except.isOk = true ∨ l.rollback?.any Except.isOk = true := by
    rw [Lifecycle.unfinished, hbegun] at h
    cases hc : l.commit?.any Except.isOk with
    | true => exact .inl rfl
    | false => exact .inr (by simpa [hc, Except.isOk, Except.toBool] using h)
  rcases ended with hok | hok
  · obtain ⟨o', ho'⟩ := answered hok
    refine ⟨o', .inl (List.mem_append_left _ (List.mem_append_left _ ?_))⟩
    rw [ho']
    exact sent
  · obtain ⟨o', ho'⟩ := answered hok
    refine ⟨o', .inr (List.mem_append_left _ (List.mem_append_right _ ?_))⟩
    rw [ho']
    exact sent

/-- Where BEGIN has succeeded, a connection on which a transaction may be running is closed. -/
theorem unfinished_of_mayBeOpen (hbegun : l.begun = .ok o) {first : List Event}
    (h : MayBeOpen fails conn (first ++ closing l conn id)) : l.unfinished = true := by
  obtain ⟨before, answer, after, heq, -, none_later⟩ := h
  have later := suffix_of_not_mem heq.symm begin_not_mem_closing
  rw [← Bool.not_eq_false]
  intro finished
  obtain ⟨o', hcommit | hrollback⟩ := exists_mem_closing conn id hbegun finished
  · exact (none_later o').1 (later.subset hcommit)
  · exact (none_later o').2 (later.subset hrollback)

end Closing

/-- What a transaction asks for if BEGIN is answered so and nothing else is sent. -/
def onlyBeginning (conn : ConnectionId) (id : TransactionId) (begun : Except Stop Outcome)
    (discard : Bool) : List Event :=
  ⟨.enter, id⟩ :: sending conn "BEGIN" begun ++ [⟨.leave id, ()⟩, ⟨.release conn discard, ()⟩]

/-- If BEGIN did not succeed, a transaction may be running exactly if the driver did not report that it
    failed. -/
theorem mayBeOpen_refused_iff (s : Stop) (id : TransactionId) (discard : Bool) :
    MayBeOpen fails conn (onlyBeginning conn id (.error s) discard) ↔ ∀ e, s = .failed e → ¬ fails e := by
  constructor
  · rintro ⟨before, answer, after, heq, unreported, -⟩ e rfl
    have hmem : (⟨.execute conn "BEGIN", answer⟩ : Event) ∈
        onlyBeginning conn id (.error (.failed e)) discard := by
      rw [heq]
      exact List.mem_append_right before List.mem_cons_self
    have hanswer : answer = .error (.failed e) := by simpa [onlyBeginning, sending] using hmem
    exact unreported e hanswer
  · intro hs
    refine ⟨[⟨.enter, id⟩, ⟨.log "BEGIN", ()⟩], .error s,
      [⟨.leave id, ()⟩, ⟨.release conn discard, ()⟩], rfl, ?_, ?_⟩
    · intro e he
      exact hs e (Except.error.inj he)
    · intro o
      simp

/-! ## Giving up -/

/-- **Which transactions close their connection.** With any block and any driver, and wherever a
    transaction is given up: if a transaction may be running on its connection it gives that back to be
    closed, exactly if the driver has said of BEGIN whether it succeeded or failed. -/
theorem run_discards_iff {b : Block Program α} {es : List Event} {r : Except Stop α}
    (ran : (run b : Task Program α).run.Runs (⟨.acquire, .ok conn⟩ :: es) r) :
    ∃ id begun uses discard,
      es = ⟨.enter, id⟩ :: sending conn "BEGIN" begun ++ uses ++ [⟨.release conn discard, ()⟩] ∧
        ∀ fails, (MayBeOpen fails conn es → discard = true) ↔ Reported fails begun := by
  rcases runs_run_block.mp ran with ⟨s, hes, -⟩ | ⟨conn', id, l, own, passage, hes⟩
  · cases hes
  · rw [List.cons_append] at hes
    obtain ⟨hconn, rfl⟩ := List.cons.inj hes
    cases hconn
    cases passage with
    | refused s =>
      refine ⟨id, .error s, [⟨.leave id, ()⟩], false, rfl, fun fails => ?_⟩
      have open_iff := @mayBeOpen_refused_iff conn fails s id false
      constructor
      · intro closes s' hs'
        obtain rfl := Except.error.inj hs'
        refine Classical.byContradiction fun unreported => ?_
        exact Bool.false_ne_true (closes (open_iff.mpr fun e he hfails => unreported ⟨e, he, hfails⟩))
      · intro reported hopen
        obtain ⟨e, he, hfails⟩ := reported s rfl
        exact absurd hfails (open_iff.mp hopen e he)
    | @begun o own x r commit? rollback? inside ends =>
      let l : Lifecycle := ⟨.ok o, commit?, rollback?⟩
      refine ⟨id, .ok o, own ++ Lifecycle.ifSent conn "COMMIT" commit? ++
        Lifecycle.ifSent conn "ROLLBACK" rollback? ++ [⟨.leave id, ()⟩], l.unfinished,
        by simp [Lifecycle.uses, l], fun fails => ?_⟩
      refine iff_of_true (fun hopen => ?_) (fun s hs => by cases hs)
      have split : l.uses conn id own ++ [⟨.release conn l.unfinished, ()⟩] =
          (⟨.enter, id⟩ :: sending conn "BEGIN" l.begun ++ own) ++ closing l conn id := by
        simp [Lifecycle.uses, closing]
      exact unfinished_of_mayBeOpen (o := o) rfl (split ▸ hopen)

/-- A transaction that is given up inside its block, before the block has sent anything. -/
theorem discards_inside_block :
    (run (throw .cancelled : Block Program Unit) : Task Program Unit).run.Runs
        (⟨.acquire, .ok 1⟩ :: onlyBeginning 1 ⟨0⟩ (.ok ⟨0, none⟩) true) (.error .cancelled) ∧
      ∃ id begun uses discard,
        onlyBeginning 1 ⟨0⟩ (.ok ⟨0, none⟩) true =
          ⟨.enter, id⟩ :: sending 1 "BEGIN" begun ++ uses ++ [⟨.release 1 discard, ()⟩] ∧
        ∀ fails, (MayBeOpen fails 1 (onlyBeginning 1 ⟨0⟩ (.ok ⟨0, none⟩) true) → discard = true) ↔
          Reported fails begun := by
  have inside : Block.RunsIn (throw .cancelled : Block Program Unit) ⟨1, ⟨0⟩⟩ [] (.error .cancelled) :=
    ⟨0, runs_throw_on.mpr ⟨rfl, rfl, rfl⟩⟩
  have ends : Concludes (.error .cancelled : Except Stop Unit) none none (.error .cancelled) :=
    .brokenOff nofun
  have ran := runs_run_block.mpr (.inr ⟨1, ⟨0⟩, _, [], .begun ⟨0, none⟩ inside ends, rfl⟩)
  exact ⟨ran, run_discards_iff ran⟩

/-- A transaction whose BEGIN did not succeed never closes its connection. -/
theorem runs_onlyBeginning (b : Block Program α) (conn : ConnectionId) (id : TransactionId) (s : Stop) :
    (run b : Task Program α).run.Runs
      (⟨.acquire, .ok conn⟩ :: onlyBeginning conn id (.error s) false) (.error s) :=
  runs_run_block.mpr (.inr ⟨conn, id, _, [], .refused s, rfl⟩)

/-- A transaction that is given up while BEGIN is in flight does not close its connection, though a
    transaction may be running there, whatever errors would have reported a failure. -/
theorem not_discarded_while_beginning :
    (run (pure () : Block Program Unit) : Task Program Unit).run.Runs
        (⟨.acquire, .ok 1⟩ :: onlyBeginning 1 ⟨0⟩ (.error .cancelled) false) (.error .cancelled) ∧
      ∀ fails, MayBeOpen fails 1 (onlyBeginning 1 ⟨0⟩ (.error .cancelled) false) :=
  ⟨runs_onlyBeginning _ 1 ⟨0⟩ .cancelled, fun _ => (mayBeOpen_refused_iff .cancelled ⟨0⟩ false).mpr nofun⟩

/-- Nor does one whose BEGIN took too long, where such an error is no report of a failure. -/
theorem not_discarded_after_timeout :
    (run (pure () : Block Program Unit) : Task Program Unit).run.Runs
        (⟨.acquire, .ok 1⟩ :: onlyBeginning 1 ⟨0⟩ (.error (.failed (.timeout "BEGIN" 5))) false)
        (.error (.failed (.timeout "BEGIN" 5))) ∧
      MayBeOpen (fun e => ∀ operation seconds, e ≠ .timeout operation seconds) 1
        (onlyBeginning 1 ⟨0⟩ (.error (.failed (.timeout "BEGIN" 5))) false) := by
  refine ⟨runs_onlyBeginning _ 1 ⟨0⟩ _, (mayBeOpen_refused_iff _ ⟨0⟩ false).mpr ?_⟩
  intro e he fails
  obtain rfl := Stop.failed.inj he
  exact fails "BEGIN" 5 rfl

end SqlMapper.Transaction
