import SqlMapper.Proofs.Database.Program

/-!
# Holding connections

What an operation does with connections: it takes one, uses it, and gives it back before it takes the
next.

* `Hold`: a connection from the time it is taken to the time it is given back.
* `Holds`: a sequence of holds, the last of which may be unfinished.
* `Holds.of_append`: the beginning of a sequence of holds is one.
* `Holds.orderly`: nothing is used, or given back, that is not held.
-/

namespace SqlMapper

/-! ## Events on connections -/

namespace Event

/-- The connection that is taken. -/
def taken? : Event → Option ConnectionId
  | ⟨.acquire, .ok conn⟩ => some conn
  | _ => none

/-- The connection that is given back. -/
def givenBack? : Event → Option ConnectionId
  | ⟨.release conn _, _⟩ => some conn
  | _ => none

/-- The connection on which a statement runs, or its fetches are taken back. -/
def used? : Event → Option ConnectionId
  | ⟨.execute conn _, _⟩ | ⟨.query conn _ _, _⟩ | ⟨.abandon conn _, _⟩ | ⟨.listTables conn, _⟩ =>
    some conn
  | _ => none

/-- No connection is taken or given back, and no other one is used. -/
def Within (conn : ConnectionId) : Event → Prop
  | ⟨.acquire, _⟩ | ⟨.release _ _, _⟩ => False
  | ⟨.execute c _, _⟩ | ⟨.query c _ _, _⟩ | ⟨.abandon c _, _⟩ | ⟨.listTables c, _⟩ => c = conn
  | ⟨.enter, _⟩ | ⟨.leave _, _⟩ | ⟨.log _, _⟩ => True

/-- The connection that is held after an event. -/
def heldAfter (held : Option ConnectionId) (e : Event) : Option ConnectionId :=
  match e.taken?, e.givenBack? with
  | some conn, _ => some conn
  | none, some _ => none
  | none, none => held

/-- What is used or given back is held, and nothing is taken while something is held. -/
def Allowed (held : Option ConnectionId) (e : Event) : Prop :=
  (∀ conn, e.used? = some conn ∨ e.givenBack? = some conn → held = some conn) ∧
    (e.taken? ≠ none → held = none)

variable {conn : ConnectionId} {e : Event}

theorem Within.allowed (h : e.Within conn) : e.Allowed (some conn) := by
  obtain ⟨r, x⟩ := e
  cases r with
  | acquire | release => exact h.elim
  | execute | query | abandon | listTables =>
    obtain rfl := h
    simp [Allowed, used?, givenBack?, taken?]
  | enter | leave | log => simp [Allowed, used?, givenBack?, taken?]

theorem Within.heldAfter (h : e.Within conn) : e.heldAfter (some conn) = some conn := by
  obtain ⟨r, x⟩ := e
  cases r with
  | acquire | release => exact h.elim
  | _ => rfl

end Event

/-! ## Holds -/

/-- A connection from the time it is taken to the time it is given back. -/
structure Hold where
  conn : ConnectionId
  uses : List Event
  discarded : Bool
  within : ∀ e ∈ uses, e.Within conn

/-- A hold, with its beginning and its end. -/
def Hold.events (h : Hold) : List Event :=
  ⟨.acquire, .ok h.conn⟩ :: h.uses ++ [⟨.release h.conn h.discarded, ()⟩]

/-- One hold after the other, and between them refusals by the pool; the last one may be unfinished, and
    then its connection is held. -/
inductive Holds : List Event → List Hold → Option ConnectionId → Prop
  | nothing : Holds [] [] none
  | refused (s : Stop) {es : List Event} {hs : List Hold} {held : Option ConnectionId}
    (rest : Holds es hs held) : Holds (⟨.acquire, .error s⟩ :: es) hs held
  | whole (h : Hold) {es : List Event} {hs : List Hold} {held : Option ConnectionId}
    (rest : Holds es hs held) : Holds (h.events ++ es) (h :: hs) held
  | unfinished (conn : ConnectionId) {uses : List Event} (within : ∀ e ∈ uses, e.Within conn) :
    Holds (⟨.acquire, .ok conn⟩ :: uses) [] (some conn)

namespace Holds

variable {es es' : List Event} {hs hs' : List Hold} {held : Option ConnectionId}

theorem one (h : Hold) : Holds h.events [h] none := by
  have whole := Holds.whole h .nothing
  rwa [List.append_nil] at whole

theorem append (h : Holds es hs none) (h' : Holds es' hs' held) :
    Holds (es ++ es') (hs ++ hs') held := by
  generalize hnone : (none : Option ConnectionId) = finished at h
  induction h with
  | nothing => exact h'
  | refused s _ ih => exact .refused s (ih hnone)
  | whole hold _ ih => rw [List.append_assoc]; exact .whole hold (ih hnone)
  | unfinished => cases hnone

/-- The beginning of a hold. -/
theorem of_append_hold {h : Hold} {t : List Event} (he : h.events = es ++ t) (ht : t ≠ []) :
    ∃ held, Holds es [] held := by
  cases es with
  | nil => exact ⟨none, .nothing⟩
  | cons e es =>
    obtain ⟨rfl, hrest⟩ := List.cons.inj he
    have hbegin : es <+: h.uses := by
      rcases List.prefix_concat_iff.mp ⟨t, hrest.symm⟩ with rfl | hpart
      · exact absurd (List.self_eq_append_right.mp hrest) ht
      · exact hpart
    exact ⟨some h.conn, .unfinished h.conn fun e he => h.within e (hbegin.subset he)⟩

/-- The beginning of a sequence of holds is one, of the first of these holds. -/
theorem of_append {t : List Event} (h : Holds (es ++ t) hs held) :
    ∃ hs' held', Holds es hs' held' ∧ hs' <+: hs := by
  generalize hall : es ++ t = all at h
  induction h generalizing es with
  | nothing =>
    obtain ⟨rfl, -⟩ := List.append_eq_nil_iff.mp hall
    exact ⟨[], none, .nothing, List.nil_prefix⟩
  | refused s _ ih =>
    cases es with
    | nil => exact ⟨[], none, .nothing, List.nil_prefix⟩
    | cons e es =>
      obtain ⟨rfl, hrest⟩ := List.cons.inj hall
      obtain ⟨hs', held', h', hp⟩ := ih hrest
      exact ⟨hs', held', .refused s h', hp⟩
  | whole hold _ ih =>
    rcases List.append_eq_append_iff.mp hall with ⟨t', ht, -⟩ | ⟨es', rfl, hrest⟩
    · by_cases hnil : t' = []
      · subst hnil
        rw [List.append_nil] at ht
        exact ⟨[hold], none, ht ▸ one hold, by simp⟩
      · obtain ⟨held', h'⟩ := of_append_hold ht hnil
        exact ⟨[], held', h', List.nil_prefix⟩
    · obtain ⟨hs', held', h', hp⟩ := ih hrest.symm
      exact ⟨hold :: hs', held', .whole hold h', List.cons_prefix_cons.mpr ⟨rfl, hp⟩⟩
  | unfinished conn within =>
    cases es with
    | nil => exact ⟨[], none, .nothing, List.nil_prefix⟩
    | cons e es =>
      obtain ⟨rfl, rfl⟩ := List.cons.inj hall
      exact ⟨[], some conn, .unfinished conn fun e he => within e (List.mem_append_left t he),
        List.nil_prefix⟩

end Holds

/-! ## Order -/

/-- The connection that is held after some events. -/
def heldAfter (held : Option ConnectionId) (es : List Event) : Option ConnectionId :=
  es.foldl Event.heldAfter held

/-- Every event is allowed where it stands. -/
def Orderly : Option ConnectionId → List Event → Prop
  | _, [] => True
  | held, e :: es => e.Allowed held ∧ Orderly (e.heldAfter held) es

theorem heldAfter_append {held : Option ConnectionId} {es es' : List Event} :
    heldAfter held (es ++ es') = heldAfter (heldAfter held es) es' :=
  List.foldl_append

theorem orderly_append {held : Option ConnectionId} {es es' : List Event} :
    Orderly held (es ++ es') ↔ Orderly held es ∧ Orderly (heldAfter held es) es' := by
  induction es generalizing held with
  | nil => exact ⟨fun h => ⟨trivial, h⟩, And.right⟩
  | cons e es ih => simp only [List.cons_append, Orderly, ih, and_assoc, heldAfter, List.foldl_cons]

/-- Inside a hold. -/
theorem orderly_within {conn : ConnectionId} {es : List Event} (h : ∀ e ∈ es, e.Within conn) :
    Orderly (some conn) es ∧ heldAfter (some conn) es = some conn := by
  induction es with
  | nil => exact ⟨trivial, rfl⟩
  | cons e es ih =>
    obtain ⟨he, hes⟩ := List.forall_mem_cons.mp h
    obtain ⟨ho, hh⟩ := ih hes
    have hstep := he.heldAfter
    refine ⟨⟨he.allowed, by rwa [hstep]⟩, ?_⟩
    rw [heldAfter, List.foldl_cons, hstep]
    exact hh

/-- A hold. -/
theorem orderly_hold (h : Hold) : Orderly none h.events ∧ heldAfter none h.events = none := by
  obtain ⟨ho, hh⟩ := orderly_within h.within
  have giving : Event.Allowed (some h.conn) ⟨.release h.conn h.discarded, ()⟩ := by
    simp [Event.Allowed, Event.used?, Event.givenBack?, Event.taken?]
  have taking : Event.Allowed none ⟨.acquire, .ok h.conn⟩ := by
    simp [Event.Allowed, Event.used?, Event.givenBack?]
  refine ⟨⟨taking, orderly_append.mpr ⟨ho, ?_⟩⟩, ?_⟩
  · show Orderly (heldAfter (some h.conn) h.uses) _
    rw [hh]
    exact ⟨giving, trivial⟩
  · rw [Hold.events, heldAfter_append]
    rfl

/-- Nothing is used, or given back, that is not held, and in the end the unfinished hold is left. -/
theorem Holds.orderly {es : List Event} {hs : List Hold} {held : Option ConnectionId}
    (h : Holds es hs held) : Orderly none es ∧ heldAfter none es = held := by
  induction h with
  | nothing => exact ⟨trivial, rfl⟩
  | refused s _ ih =>
    refine ⟨⟨?_, ih.1⟩, ih.2⟩
    simp [Event.Allowed, Event.used?, Event.givenBack?]
  | whole hold _ ih =>
    obtain ⟨ho, hh⟩ := orderly_hold hold
    refine ⟨orderly_append.mpr ⟨ho, by rw [hh]; exact ih.1⟩, ?_⟩
    rw [heldAfter_append, hh]
    exact ih.2
  | unfinished conn within =>
    obtain ⟨ho, hh⟩ := orderly_within within
    exact ⟨⟨by simp [Event.Allowed, Event.used?, Event.givenBack?], ho⟩, hh⟩

end SqlMapper
