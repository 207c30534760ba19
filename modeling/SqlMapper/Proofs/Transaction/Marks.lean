import SqlMapper.Proofs.Connection.Hold
import SqlMapper.Proofs.Transaction.Composed

/-!
# Marks in a run

A transaction sets a mark before it sends BEGIN, and removes it after its last statement, however it ends.

* `Event.Proper`: a transaction enters once, sends statements only while it is marked, and leaves once.
* `markedOnce_run`: every run of a transaction is like that.
* `markedOnce_heldMark`: so is every mark that a caller holds for itself.
-/

namespace SqlMapper

/-! ## Marks -/

namespace Event

/-- Whether a mark is set or removed. -/
def isMark : Event → Bool
  | ⟨.enter, _⟩ | ⟨.leave _, _⟩ => true
  | _ => false

/-- The mark that is set after an event. -/
def markAfter (mark? : Option TransactionId) : Event → Option TransactionId
  | ⟨.enter, id⟩ => some id
  | ⟨.leave _, _⟩ => none
  | _ => mark?

/-- One mark is set at a time, it is the one that is removed, and statements are sent only while it is
    set. -/
def Proper (mark? : Option TransactionId) : Event → Prop
  | ⟨.enter, _⟩ => mark? = none
  | ⟨.leave id, _⟩ => mark? = some id
  | ⟨.execute _ _, _⟩ | ⟨.query _ _ _, _⟩ | ⟨.abandon _ _, _⟩ | ⟨.listTables _, _⟩ => mark? ≠ none
  | ⟨.acquire, _⟩ | ⟨.release _ _, _⟩ | ⟨.log _, _⟩ => True

variable {e : Event} {mark? : Option TransactionId}

theorem markAfter_of_not_isMark (mark? : Option TransactionId) (h : e.isMark = false) :
    e.markAfter mark? = mark? := by
  obtain ⟨r, x⟩ := e
  cases r with
  | enter | leave => cases h
  | _ => rfl

theorem On.not_isMark {conn : ConnectionId} (h : e.On conn) : e.isMark = false := by
  obtain ⟨r, x⟩ := e
  cases r with
  | enter | leave => exact h.elim
  | _ => rfl

/-- While a mark is set everything is proper that leaves it alone. -/
theorem proper_of_not_isMark {id : TransactionId} (h : e.isMark = false) : e.Proper (some id) := by
  obtain ⟨r, x⟩ := e
  cases r with
  | enter | leave => cases h
  | acquire | release | log => trivial
  | _ => exact Option.some_ne_none id

theorem Proper.ne_none {conn : ConnectionId} (h : e.Proper mark?) (hused : e.used? = some conn) :
    mark? ≠ none := by
  obtain ⟨r, x⟩ := e
  cases r with
  | execute | query | abandon | listTables => exact h
  | _ => cases hused

end Event

/-- The mark that is set after some events. -/
def markAfter (mark? : Option TransactionId) (es : List Event) : Option TransactionId :=
  es.foldl Event.markAfter mark?

/-- Every event is proper where it stands. -/
def Proper : Option TransactionId → List Event → Prop
  | _, [] => True
  | mark?, e :: es => e.Proper mark? ∧ Proper (e.markAfter mark?) es

section Traces

variable {mark? : Option TransactionId} {id : TransactionId} {es es' : List Event}

theorem markAfter_append : markAfter mark? (es ++ es') = markAfter (markAfter mark? es) es' :=
  List.foldl_append

theorem proper_append :
    Proper mark? (es ++ es') ↔ Proper mark? es ∧ Proper (markAfter mark? es) es' := by
  induction es generalizing mark? with
  | nil => exact ⟨fun h => ⟨trivial, h⟩, And.right⟩
  | cons e es ih =>
    simp only [List.cons_append, Proper, ih, and_assoc, markAfter, List.foldl_cons]

/-- Events that leave a mark alone. -/
theorem proper_of_not_isMark (id : TransactionId) (h : ∀ e ∈ es, e.isMark = false) :
    Proper (some id) es ∧ markAfter (some id) es = some id := by
  induction es with
  | nil => exact ⟨trivial, rfl⟩
  | cons e es ih =>
    obtain ⟨he, hes⟩ := List.forall_mem_cons.mp h
    obtain ⟨proper, mark⟩ := ih hes
    have hstep := Event.markAfter_of_not_isMark (some id) he
    refine ⟨⟨Event.proper_of_not_isMark he, by rwa [hstep]⟩, ?_⟩
    rw [markAfter, List.foldl_cons, hstep]
    exact mark

/-- A mark stays set until it is removed. -/
theorem markAfter_of_not_mem (proper : Proper (some id) es) (h : ⟨.leave id, ()⟩ ∉ es) :
    markAfter (some id) es = some id := by
  induction es with
  | nil => rfl
  | cons e es ih =>
    obtain ⟨he, hes⟩ := proper
    have kept : e.markAfter (some id) = some id := by
      obtain ⟨r, x⟩ := e
      cases r with
      | enter => cases he
      | leave id' =>
        obtain rfl : id = id' := Option.some.inj he
        exact absurd List.mem_cons_self h
      | _ => rfl
    rw [kept] at hes
    rw [markAfter, List.foldl_cons, kept]
    exact ih hes (List.not_mem_of_not_mem_cons h)

end Traces

/-- A run that sets and removes one mark, or none. -/
structure MarkedOnce (es : List Event) : Prop where
  proper : Proper none es
  once : es.filter Event.isMark = [] ∨
    ∃ id, es.filter Event.isMark = [⟨.enter, id⟩, ⟨.leave id, ()⟩]

/-- A mark around events that leave marks alone, and outside of it no statements. -/
theorem markedOnce_around {before inside after : List Event}
    (hbefore : Proper none before ∧ before.filter Event.isMark = [])
    (hinside : ∀ e ∈ inside, e.isMark = false)
    (hafter : Proper none after ∧ after.filter Event.isMark = []) (id : TransactionId) :
    MarkedOnce (before ++ ⟨.enter, id⟩ :: inside ++ ⟨.leave id, ()⟩ :: after) := by
  have idle : ∀ {es : List Event}, es.filter Event.isMark = [] → markAfter none es = none := by
    intro es
    induction es with
    | nil => exact fun _ => rfl
    | cons e es ih =>
      intro h
      obtain ⟨he, hes⟩ := List.forall_mem_cons.mp (List.filter_eq_nil_iff.mp h)
      rw [markAfter, List.foldl_cons, Event.markAfter_of_not_isMark none (by simpa using he)]
      exact ih (List.filter_eq_nil_iff.mpr hes)
  obtain ⟨hproper, hmark⟩ := proper_of_not_isMark id hinside
  have hopen : markAfter none (before ++ ⟨.enter, id⟩ :: inside) = some id := by
    rw [markAfter_append, idle hbefore.2]
    exact hmark
  refine ⟨?_, .inr ⟨id, ?_⟩⟩
  · rw [proper_append, hopen]
    refine ⟨proper_append.mpr ⟨hbefore.1, ?_⟩, rfl, hafter.1⟩
    rw [idle hbefore.2]
    exact ⟨rfl, hproper⟩
  · have hnone : inside.filter Event.isMark = [] :=
      List.filter_eq_nil_iff.mpr fun e he => by simp [hinside e he]
    simp [List.filter_append, List.filter_cons, hbefore.2, hafter.2, hnone, Event.isMark]

/-! ## Transactions -/

namespace Transaction

variable {α : Type}

/-- Every run of a transaction sets its mark before BEGIN and removes it once, after its last statement. -/
theorem markedOnce_run {b : Block Program α} (composed : Composed b) {es : List Event}
    {r : Except Stop α} (ran : (run b : Task Program α).run.Runs es r) : MarkedOnce es := by
  rcases runs_run_block.mp ran with ⟨s, rfl, -⟩ | ⟨conn, id, l, own, passage, rfl⟩
  · exact ⟨⟨trivial, trivial⟩, .inl rfl⟩
  · obtain ⟨inside, huses, hinside⟩ := passage.exists_uses composed
    have outside : ∀ e : Event, e.isMark = false → e.Proper none →
        Proper none [e] ∧ [e].filter Event.isMark = [] := by
      intro e hmark hproper
      exact ⟨⟨hproper, trivial⟩, by simp [hmark]⟩
    have around := markedOnce_around (outside ⟨.acquire, .ok conn⟩ rfl trivial)
      (fun e he => (hinside e he).not_isMark) (outside ⟨.release conn l.unfinished, ()⟩ rfl trivial)
    rw [huses]
    simpa using around id

/-- A mark that a caller holds for itself, from the time it is made to the time it is dropped. -/
def heldMark : Program Unit := do
  let id ← (Backend.enter : Program TransactionId)
  (Backend.leave id : Program Unit)

theorem markedOnce_heldMark {es : List Event} (ran : heldMark.Runs es ()) : MarkedOnce es := by
  obtain ⟨id, _, _, h₁, h₂, rfl⟩ := Program.runs_bind.mp ran
  rw [Program.runs_request.mp h₁, Program.runs_request.mp h₂]
  have nothing : Proper none [] ∧ [].filter Event.isMark = [] := ⟨trivial, rfl⟩
  exact markedOnce_around nothing (List.forall_mem_nil _) nothing id

end Transaction

end SqlMapper
