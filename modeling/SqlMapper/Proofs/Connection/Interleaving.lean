import SqlMapper.Proofs.Connection.Operation

/-!
# Operations side by side

Any number of operations run at the same time over one pool, with their steps in any order. A step is a
request with its answer. The pool hands out no connection that is held; its other answers, and those of
the driver, are left open.

* `Reachable`: the states of all interleavings.
* `Invariant`: the connection that a history gives to an operation is the one the operation holds.
* `reachable_keeps_connections_apart`: connections are held by one operation at a time, are given back,
  and are closed exactly after a transaction that may still be open.
-/

namespace SqlMapper.Interleaving

/-! ## States and steps -/

/-- An operation that has begun, and what is left of it. -/
structure Job where
  Answer : Type
  op : Operation Answer
  rest : Program (Except Stop Answer)

def Job.start {α : Type} (op : Operation α) : Job := ⟨α, op, (op.task : Task Program α).run⟩

def Job.Ended (job : Job) : Prop := ∃ r, job.rest = .done r

/-- The requests with their answers in the order of time, each with the number of its operation. -/
abbrev History := List (Nat × Event)

/-- The operations that have begun, numbered in that order, and all that they have asked for. -/
structure State where
  jobs : List Job
  history : History

/-- Who holds each connection after one more event. -/
def handOver (holder : ConnectionId → Option Nat) (entry : Nat × Event) (conn : ConnectionId) :
    Option Nat :=
  if entry.2.taken? = some conn then some entry.1
  else if entry.2.givenBack? = some conn then none
  else holder conn

/-- The operation that holds a connection: the one that took it last, unless it was given back. -/
def holder (history : History) : ConnectionId → Option Nat :=
  history.foldl handOver fun _ => none

/-- What one operation has asked for. -/
def eventsOf (k : Nat) (history : History) : List Event :=
  history.filterMap fun entry => if entry.1 = k then some entry.2 else none

/-- One step. A task may begin an operation at any time; it need not wait for one that it has begun, as
    when it calls the adapter from inside the block of a transaction. -/
inductive Step (s : State) : State → Prop
  | start {α : Type} (op : Operation α) : Step s ⟨s.jobs ++ [.start op], s.history⟩
  | ask {k : Nat} {α : Type} {op : Operation α} {r : Request}
    {next : r.Answer → Program (Except Stop α)} (job : s.jobs[k]? = some ⟨α, op, .ask r next⟩)
    (x : r.Answer) (free : ∀ conn, Event.taken? ⟨r, x⟩ = some conn → holder s.history conn = none) :
    Step s ⟨s.jobs.set k ⟨α, op, next x⟩, s.history ++ [(k, ⟨r, x⟩)]⟩

inductive Reachable : State → Prop
  | initial : Reachable ⟨[], []⟩
  | step {s s' : State} (reached : Reachable s) (next : Step s s') : Reachable s'

/-! ## Histories -/

variable {history : History} {k k' : Nat} {e : Event} {conn : ConnectionId}

theorem holder_concat :
    holder (history ++ [(k, e)]) conn = handOver (holder history) (k, e) conn := by
  rw [holder, List.foldl_append]
  rfl

theorem eventsOf_concat_self : eventsOf k (history ++ [(k, e)]) = eventsOf k history ++ [e] := by
  simp [eventsOf]

theorem eventsOf_concat_of_ne (h : k ≠ k') :
    eventsOf k' (history ++ [(k, e)]) = eventsOf k' history := by
  simp [eventsOf, h]

/-- An operation uses, or gives back, only what it holds, and takes only what nobody holds. -/
def Rightful (history : History) (k : Nat) (e : Event) : Prop :=
  (∀ conn, e.used? = some conn ∨ e.givenBack? = some conn → holder history conn = some k) ∧
    ∀ conn, e.taken? = some conn → holder history conn = none

/-- Every event is rightful where it stands. -/
def Exclusive (history : History) : Prop :=
  ∀ ⦃before k e after⦄, history = before ++ (k, e) :: after → Rightful before k e

theorem exclusive_nil : Exclusive [] := by
  intro before k e after h
  simp at h

theorem Exclusive.concat (h : Exclusive history) (he : Rightful history k e) :
    Exclusive (history ++ [(k, e)]) := by
  intro before k' e' after heq
  rcases List.eq_nil_or_concat after with rfl | ⟨after, last, rfl⟩
  · obtain ⟨rfl, hlast⟩ := List.append_inj' heq rfl
    cases hlast
    exact he
  · rw [List.concat_eq_append, ← List.cons_append, ← List.append_assoc] at heq
    exact h (List.append_inj' heq rfl).1

theorem eq_release_of_givenBack (h : e.givenBack? = some conn) :
    ∃ discard, e = ⟨.release conn discard, ()⟩ := by
  obtain ⟨r, x⟩ := e
  cases r with
  | release c discard => cases h; exact ⟨discard, rfl⟩
  | _ => cases h

theorem givenBack_of_taken {c : ConnectionId} (h : e.taken? = some c) : e.givenBack? = none := by
  obtain ⟨r, x⟩ := e
  cases r with
  | acquire => rfl
  | _ => cases h

/-- An operation holds a connection until it gives it back. -/
theorem Exclusive.holder_append {before mid after : History}
    (h : Exclusive (before ++ mid ++ after)) (held : holder before conn = some k)
    (keeps : ∀ discard, (k, ⟨.release conn discard, ()⟩) ∉ mid) :
    holder (before ++ mid) conn = some k := by
  induction mid generalizing before with
  | nil => rwa [List.append_nil]
  | cons entry mid ih =>
    obtain ⟨k', e⟩ := entry
    obtain ⟨huse, htake⟩ : Rightful before k' e := h (by rw [List.append_assoc, List.cons_append])
    have kept : holder (before ++ [(k', e)]) conn = some k := by
      rw [holder_concat, handOver, if_neg, if_neg, held]
      · intro hback
        obtain rfl : k = k' := by simpa [held] using huse conn (.inr hback)
        obtain ⟨discard, rfl⟩ := eq_release_of_givenBack hback
        exact keeps discard List.mem_cons_self
      · intro htaken
        rw [htake conn htaken] at held
        cases held
    rw [List.append_cons] at h ⊢
    exact ih h kept fun discard hmem => keeps discard (List.mem_cons_of_mem _ hmem)

/-! ## The invariant -/

/-- What holds in every state. -/
structure Invariant (s : State) : Prop where
  /-- Every operation has come as far as its own requests took it. -/
  reaches : ∀ ⦃k job⦄, s.jobs[k]? = some job →
    (job.op.task : Task Program job.Answer).run.Reaches (eventsOf k s.history) job.rest
  /-- Nothing is asked for before it has begun. -/
  begun : ∀ ⦃k⦄, s.jobs.length ≤ k → eventsOf k s.history = []
  /-- An operation holds what its own requests make it hold. -/
  holds : ∀ conn k, holder s.history conn = some k ↔
    heldAfter none (eventsOf k s.history) = some conn
  exclusive : Exclusive s.history

theorem invariant_initial : Invariant ⟨[], []⟩ where
  reaches := by intro k job h; cases h
  begun := by intro k _; rfl
  holds := by intro conn k; simp [holder, eventsOf, heldAfter]
  exclusive := exclusive_nil

/-- A request that an operation comes to is allowed by what it holds. -/
theorem allowed_of_reaches {α : Type} {op : Operation α} {es : List Event} {r : Request}
    {next : r.Answer → Program (Except Stop α)}
    (h : (op.task : Task Program α).run.Reaches es (.ask r next)) (x : r.Answer) :
    Event.Allowed (heldAfter none es) ⟨r, x⟩ := by
  obtain ⟨rest, a, run⟩ := (h.snoc x).exists_runs
  obtain ⟨hs, holds, -⟩ := exists_holds run
  have orderly := holds.orderly.1
  rw [List.append_assoc, orderly_append] at orderly
  exact orderly.2.1

variable {s : State}

theorem Invariant.start {α : Type} (inv : Invariant s) (op : Operation α) :
    Invariant ⟨s.jobs ++ [.start op], s.history⟩ where
  reaches := by
    intro k job h
    rcases Nat.lt_or_ge k s.jobs.length with hk | hk
    · rw [List.getElem?_append_left hk] at h
      exact inv.reaches h
    · rw [List.getElem?_append_right hk, List.getElem?_singleton] at h
      split at h
      · cases h
        rw [inv.begun hk]
        rfl
      · cases h
  begun := by
    intro k hk
    rw [List.length_append] at hk
    exact inv.begun (Nat.le_trans (Nat.le_add_right _ _) hk)
  holds := inv.holds
  exclusive := inv.exclusive

/-- After an event the holder of a connection is still the operation whose own requests make it hold
    that connection. -/
theorem holder_concat_iff (inv : Invariant s) (rightful : Rightful s.history k e)
    (allowed : e.Allowed (heldAfter none (eventsOf k s.history))) (conn : ConnectionId) (k' : Nat) :
    holder (s.history ++ [(k, e)]) conn = some k' ↔
      heldAfter none (eventsOf k' (s.history ++ [(k, e)])) = some conn := by
  obtain ⟨huse, htake⟩ := rightful
  have hheld := inv.holds
  rw [holder_concat, handOver]
  by_cases hk : k = k'
  · -- the operation itself
    subst hk
    rw [eventsOf_concat_self, heldAfter_append]
    show _ ↔ e.heldAfter (heldAfter none (eventsOf k s.history)) = some conn
    cases htaken : e.taken? with
    | some c =>
      have hback := givenBack_of_taken htaken
      have hother : holder s.history conn ≠ some k := by
        rw [Ne, hheld, allowed.2 (by simp [htaken])]
        simp
      by_cases hc : c = conn <;> simp [Event.heldAfter, htaken, hback, hc, hother]
    | none =>
      cases hback : e.givenBack? with
      | some c =>
        have hsome := allowed.1 c (.inr hback)
        by_cases hc : c = conn <;> simp [Event.heldAfter, htaken, hback, hc, hheld, hsome]
      | none => simp [Event.heldAfter, htaken, hback, hheld]
  · -- another operation
    rw [eventsOf_concat_of_ne hk, ← hheld]
    by_cases htaken : e.taken? = some conn
    · simp [htaken, hk, htake conn htaken]
    · by_cases hback : e.givenBack? = some conn
      · simp [htaken, hback, hk, huse conn (.inr hback)]
      · simp [htaken, hback]

theorem Invariant.ask {α : Type} {op : Operation α} {r : Request}
    {next : r.Answer → Program (Except Stop α)} (inv : Invariant s)
    (job : s.jobs[k]? = some ⟨α, op, .ask r next⟩) (x : r.Answer)
    (free : ∀ conn, Event.taken? ⟨r, x⟩ = some conn → holder s.history conn = none) :
    Invariant ⟨s.jobs.set k ⟨α, op, next x⟩, s.history ++ [(k, ⟨r, x⟩)]⟩ := by
  have reaches := inv.reaches job
  have allowed := allowed_of_reaches reaches x
  have rightful : Rightful s.history k ⟨r, x⟩ :=
    ⟨fun conn hconn => (inv.holds conn k).mpr (allowed.1 conn hconn), free⟩
  obtain ⟨hlt, -⟩ := List.getElem?_eq_some_iff.mp job
  refine ⟨?_, ?_, holder_concat_iff inv rightful allowed, inv.exclusive.concat rightful⟩
  · intro k' job' h
    by_cases hk : k = k'
    · subst hk
      rw [List.getElem?_set_self hlt] at h
      cases h
      rw [eventsOf_concat_self]
      exact reaches.snoc x
    · rw [List.getElem?_set_ne hk] at h
      rw [eventsOf_concat_of_ne hk]
      exact inv.reaches h
  · intro k' hk'
    rw [List.length_set] at hk'
    rw [eventsOf_concat_of_ne (Nat.ne_of_lt (Nat.lt_of_lt_of_le hlt hk'))]
    exact inv.begun hk'

theorem Reachable.invariant (reached : Reachable s) : Invariant s := by
  induction reached with
  | initial => exact invariant_initial
  | step _ next inv =>
    cases next with
    | start op => exact inv.start op
    | ask job x free => exact inv.ask job x free

/-! ## Connections are kept apart -/

/-- An operation that has come to its end holds nothing, and until then at most one connection. Each
    connection that it took before was given back once, to be closed as the operation says. -/
theorem Invariant.exists_holds (inv : Invariant s) {job : Job} (hjob : s.jobs[k]? = some job) :
    ∃ hs held, Holds (eventsOf k s.history) hs held ∧ (∀ h ∈ hs, job.op.Discards h) ∧
      (job.Ended → held = none) ∧ ∀ conn, held = some conn → holder s.history conn = some k := by
  have reaches := inv.reaches hjob
  by_cases ended : job.Ended
  · obtain ⟨r, hr⟩ := ended
    rw [hr] at reaches
    have run := reaches.runs ⟨rfl, rfl⟩
    rw [List.append_nil] at run
    obtain ⟨hs, holds, discards⟩ := SqlMapper.exists_holds run
    exact ⟨hs, none, holds, discards, fun _ => rfl, fun _ h => by cases h⟩
  · obtain ⟨rest, r, run⟩ := reaches.exists_runs
    obtain ⟨hs, holds, discards⟩ := SqlMapper.exists_holds run
    obtain ⟨hs', held, holds', hbegin⟩ := holds.of_append
    refine ⟨hs', held, holds', fun h hh => discards h (hbegin.subset hh), fun h => absurd h ended, ?_⟩
    rintro conn rfl
    exact (inv.holds conn k).mpr holds'.orderly.2

/-- **Connections are kept apart.** In every interleaving, an operation uses or gives back a connection
    only while it holds it; from the time it takes a connection to the time it gives it back nobody else
    uses it; and every operation holds one connection after the other, gives each back once, to be closed
    exactly if a transaction may still be open on it, and holds none when it has ended. -/
theorem reachable_keeps_connections_apart (reached : Reachable s) :
    Exclusive s.history ∧
      (∀ before k conn mid k' e after,
        s.history = before ++ (k, ⟨.acquire, .ok conn⟩) :: mid ++ (k', e) :: after →
        (∀ discard, (k, ⟨.release conn discard, ()⟩) ∉ mid) →
        e.used? = some conn ∨ e.givenBack? = some conn → k' = k) ∧
      ∀ k job, s.jobs[k]? = some job →
        ∃ hs held, Holds (eventsOf k s.history) hs held ∧ (∀ h ∈ hs, job.op.Discards h) ∧
          (job.Ended → held = none) ∧ ∀ conn, held = some conn → holder s.history conn = some k := by
  have inv := reached.invariant
  refine ⟨inv.exclusive, ?_, fun k job hjob => inv.exists_holds hjob⟩
  intro before k conn mid k' e after heq keeps huse
  have exclusive := inv.exclusive
  have taken : holder (before ++ [(k, ⟨.acquire, .ok conn⟩)]) conn = some k := by
    rw [holder_concat]
    exact if_pos rfl
  have regrouped : before ++ (k, ⟨.acquire, .ok conn⟩) :: mid =
      before ++ [(k, ⟨.acquire, .ok conn⟩)] ++ mid := by simp
  rw [regrouped] at heq
  rw [heq] at exclusive
  have held := exclusive.holder_append taken keeps
  have user := (exclusive rfl).1 conn huse
  rw [held] at user
  exact (Option.some.inj user).symm

/-- A transaction whose block panics, on connection 0, and beside it a statement on connection 1. -/
def panicBesideStatement : State where
  jobs := [⟨Unit, .transaction .panic, .done (.error .panicked)⟩,
    ⟨Outcome, .execute "DELETE FROM t", .done (.ok ⟨0, none⟩)⟩]
  history :=
    [(0, ⟨.acquire, .ok 0⟩), (1, ⟨.acquire, .ok 1⟩), (0, ⟨.enter, ⟨0⟩⟩), (0, ⟨.log "BEGIN", ()⟩),
      (1, ⟨.log "DELETE FROM t", ()⟩), (0, ⟨.execute 0 "BEGIN", .ok ⟨0, none⟩⟩),
      (1, ⟨.execute 1 "DELETE FROM t", .ok ⟨0, none⟩⟩), (0, ⟨.leave ⟨0⟩, ()⟩),
      (0, ⟨.release 0 true, ()⟩), (1, ⟨.release 1 false, ()⟩)]

theorem reachable_panicBesideStatement : Reachable panicBesideStatement := by
  have s₁ := Reachable.initial.step (.start (.transaction (.panic : Transaction.Code Unit)))
  have s₂ := s₁.step (.start (.execute "DELETE FROM t"))
  have s₃ := s₂.step (.ask (k := 0) (r := .acquire) rfl (.ok 0) (by rintro _ ⟨⟩; rfl))
  have s₄ := s₃.step (.ask (k := 1) (r := .acquire) rfl (.ok 1) (by rintro _ ⟨⟩; rfl))
  have s₅ := s₄.step (.ask (k := 0) (r := .enter) rfl ⟨0⟩ nofun)
  have s₆ := s₅.step (.ask (k := 0) (r := .log "BEGIN") rfl () nofun)
  have s₇ := s₆.step (.ask (k := 1) (r := .log "DELETE FROM t") rfl () nofun)
  have s₈ := s₇.step (.ask (k := 0) (r := .execute 0 "BEGIN") rfl (.ok ⟨0, none⟩) nofun)
  have s₉ := s₈.step (.ask (k := 1) (r := .execute 1 "DELETE FROM t") rfl (.ok ⟨0, none⟩) nofun)
  have s₁₀ := s₉.step (.ask (k := 0) (r := .leave ⟨0⟩) rfl () nofun)
  have s₁₁ := s₁₀.step (.ask (k := 0) (r := .release 0 true) rfl () nofun)
  have s₁₂ := s₁₁.step (.ask (k := 1) (r := .release 1 false) rfl () nofun)
  exact s₁₂

theorem panicBesideStatement_keeps_connections_apart :
    Reachable panicBesideStatement ∧ Exclusive panicBesideStatement.history ∧
      ∃ hs, Holds (eventsOf 0 panicBesideStatement.history) hs none ∧
        ∀ h ∈ hs, (Operation.transaction (.panic : Transaction.Code Unit)).Discards h := by
  obtain ⟨exclusive, -, operations⟩ :=
    reachable_keeps_connections_apart reachable_panicBesideStatement
  obtain ⟨hs, held, holds, discards, ended, -⟩ := operations 0 _ rfl
  obtain rfl := ended ⟨_, rfl⟩
  exact ⟨reachable_panicBesideStatement, exclusive, hs, holds, discards⟩

end SqlMapper.Interleaving
