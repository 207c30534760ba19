import Mathlib.Data.List.Induction
import Mathlib.Logic.Relation
import SqlMapper.Proofs.Model.JoinType

/-!
# One catalog for many tasks

Any number of tasks use one catalog and join tables over it at the same time. The catalog lies behind a
lock that every access to it holds to its end, so an access is one step. The look-up of a row type is
several: of the calls on one join table one begins to look, finds the type in the catalog, and keeps it;
in between other tasks take their steps, and the calls that come later wait or take what was kept.

* `Step`, `Reachable`: the interleavings.
* `found`: the type under a name, from the history alone.
* `reachable_shares`: types are made once, left alone, and shared.
-/

namespace SqlMapper.Sharing

/-! ## The interleaved system -/

/-- How far the search for the type of a join table's rows has come. -/
inductive Stage where
  /-- Nobody is looking. -/
  | idle
  /-- One call is looking; it has not been to the catalog yet. -/
  | looking
  /-- That call has the type from the catalog, and has not kept it yet. -/
  | holding (r : Registered)
deriving DecidableEq

/-- A join table in the hands of all tasks. -/
structure Handle where
  table : JoinTable
  stage : Stage
deriving DecidableEq

/-- What has happened at the catalog and at the join tables, which are numbered. -/
inductive Event where
  /-- A type was put under a name, whatever was there. -/
  | registered (name : String) (r : Registered)
  /-- The type under a name was asked for, by a join table or for its own sake; it was created if there
      was none. -/
  | asked (table? : Option Nat) (name : String) (r : Registered) (created : Bool)
  | lookedUp (name : String) (r? : Option Registered)
  /-- A call on a join table returned the type of its rows. -/
  | returned (table : Nat) (r : Registered)
deriving DecidableEq

/-- The catalog, the join tables, and all events in the order of time. -/
structure State where
  catalog : Catalog
  handles : List Handle
  history : List Event

/-- One step of some task. Calls on a join table that wait for another one to end its search take no
    steps until then. -/
inductive Step (s : State) : State → Prop
  | register (e : EntityType) : Step s { s with
      catalog := (s.catalog.register e).2
      history := s.history ++ [.registered e.name (s.catalog.register e).1] }
  | define (name : String) : Step s { s with
      catalog := (s.catalog.define name).2
      history := s.history ++ [.registered name (s.catalog.define name).1] }
  | lookup (name : String) : Step s { s with
      history := s.history ++ [.lookedUp name (s.catalog.lookup name)] }
  | getOrRegister (name : String) (build : EntityType) : Step s { s with
      catalog := (s.catalog.getOrRegister name build).2.2
      history := s.history ++ [.asked none name (s.catalog.getOrRegister name build).1
        (s.catalog.getOrRegister name build).2.1] }
  | between (source destination : EntityType) (options : StorageOptions) : Step s { s with
      handles := s.handles ++ [⟨.between source destination options, .idle⟩] }
  /-- A call begins to look for the type, as there is none kept and nobody else is looking. -/
  | begin {k : Nat} {j : JoinTable} (at_ : s.handles[k]? = some ⟨j, .idle⟩) (empty : j.kept? = none) :
    Step s { s with handles := s.handles.set k ⟨j, .looking⟩ }
  /-- The call that is looking is given up before it comes to the catalog. -/
  | abandon {k : Nat} {j : JoinTable} (at_ : s.handles[k]? = some ⟨j, .looking⟩) :
    Step s { s with handles := s.handles.set k ⟨j, .idle⟩ }
  | find {k : Nat} {j : JoinTable} {r : Registered} {created : Bool} {c : Catalog}
    (at_ : s.handles[k]? = some ⟨j, .looking⟩)
    (access : s.catalog.getOrRegister j.typeName (j.builtType s.catalog.inflector) = (r, created, c)) :
    Step s ⟨c, s.handles.set k ⟨j, .holding r⟩, s.history ++ [.asked (some k) j.typeName r created]⟩
  | keep {k : Nat} {j : JoinTable} {r : Registered} (at_ : s.handles[k]? = some ⟨j, .holding r⟩) :
    Step s { s with
      handles := s.handles.set k ⟨{ j with kept? := some r }, .idle⟩
      history := s.history ++ [.returned k r] }
  | reuse {k : Nat} {h : Handle} {r : Registered} (at_ : s.handles[k]? = some h)
    (kept : h.table.kept? = some r) : Step s { s with history := s.history ++ [.returned k r] }

/-- What can be reached from a catalog without types. -/
inductive Reachable (i : Inflector) : State → Prop
  | initial : Reachable i ⟨.empty i, [], []⟩
  | step {s s' : State} (reached : Reachable i s) (next : Step s s') : Reachable i s'

/-! ## Histories -/

namespace Event

/-- The name under which the event leaves a type in the catalog. -/
def name? : Event → Option String
  | registered name _ | asked _ name _ _ => some name
  | lookedUp _ _ | returned _ _ => none

/-- The type that the event is about. -/
def type? : Event → Option Registered
  | registered _ r | asked _ _ r _ | returned _ r => some r
  | lookedUp _ r? => r?

/-- The join table that the event is about. -/
def table? : Event → Option Nat
  | asked table? _ _ _ => table?
  | returned k _ => some k
  | registered _ _ | lookedUp _ _ => none

/-- A type was reported as newly created under a name. -/
def Creates (name : String) (e : Event) : Prop := ∃ table? r, e = asked table? name r true

/-- A type was made: registered, or created as there was none. -/
def Makes (r : Registered) (e : Event) : Prop :=
  (∃ name, e = registered name r) ∨ ∃ table? name, e = asked table? name r true

/-- A join table asked for the type of its rows. -/
def AskedBy (k : Nat) (e : Event) : Prop := ∃ name r created, e = asked (some k) name r created

end Event

/-- The type under a name after one more event. -/
def leaves (name : String) (r? : Option Registered) (e : Event) : Option Registered :=
  if e.name? = some name then e.type? else r?

/-- The type under a name: the one that was registered or asked for last. -/
def found (history : List Event) (name : String) : Option Registered :=
  history.foldl (leaves name) none

/-- What a join table has asked for. -/
def asksOf (k : Nat) (history : List Event) : List (String × Registered) :=
  history.filterMap fun
    | .asked table? name r _ => if table? = some k then some (name, r) else none
    | _ => none

/-- A type that has not been seen. -/
def Unseen (history : List Event) (r : Registered) : Prop := ∀ e ∈ history, e.type? ≠ some r

/-- An event as it has to be after those before it: what is made is new, and what is asked for or looked
    up is what is found. -/
def Right (before : List Event) : Event → Prop
  | .registered _ r => Unseen before r
  | .asked _ name r true => found before name = none ∧ Unseen before r
  | .asked _ name r false => found before name = some r
  | .lookedUp name r? => r? = found before name
  | .returned _ _ => True

variable {i : Inflector} {s s' : State} {history before : List Event} {e : Event} {name : String}
  {r : Registered} {k : Nat} {h : Handle} {j : JoinTable}

theorem found_concat : found (history ++ [e]) name = leaves name (found history name) e := by
  rw [found, List.foldl_append]
  rfl

/-- Where no type is found there was never one. -/
theorem name?_ne_of_found_eq_none (h : found history name = none) : ∀ e ∈ history, e.name? ≠ some name := by
  induction history using List.reverseRecOn with
  | nil => exact List.forall_mem_nil _
  | append_singleton history e ih =>
    rw [found_concat, leaves] at h
    split at h
    · next hname => cases e <;> simp [Event.name?, Event.type?] at hname h
    · next hname => exact List.forall_mem_append.mpr ⟨ih h, List.forall_mem_singleton.mpr hname⟩

/-- What is found stays until a type is registered under that name. -/
theorem found_append {mid : List Event} (right : ∀ ⦃m e a⦄, mid = m ++ e :: a → Right (before ++ m) e)
    (h : found before name = some r) (unchanged : ∀ x, .registered name x ∉ mid) :
    found (before ++ mid) name = some r := by
  induction mid using List.reverseRecOn with
  | nil => rwa [List.append_nil]
  | append_singleton mid e ih =>
    have hmid : found (before ++ mid) name = some r := by
      refine ih (fun m e' a hm => right (a := a ++ [e]) ?_)
        (fun x hx => unchanged x (List.mem_append_left _ hx))
      rw [hm, List.append_assoc, List.cons_append]
    have he : Right (before ++ mid) e := right (a := []) rfl
    rw [← List.append_assoc, found_concat, hmid, leaves]
    split
    · next hname =>
      cases e with
      | registered n x =>
        cases hname
        exact absurd (List.mem_append_right _ List.mem_cons_self) (unchanged x)
      | asked table? n x created =>
        cases hname
        cases created with
        | true => rw [he.1] at hmid; cases hmid
        | false => exact he.symm.trans hmid
      | lookedUp n x => cases hname
      | returned k x => cases hname
    · rfl

/-! ## Join tables -/

/-- What a join table has asked for when it stands where it stands. -/
def Handle.taken (h : Handle) : List (String × Registered) :=
  match h.table.kept?, h.stage with
  | some r, _ | none, .holding r => [(h.table.typeName, r)]
  | none, _ => []

/-- A join table asks for one type only, and returns no other. -/
structure Sound (history : List Event) (k : Nat) (h : Handle) : Prop where
  asks : asksOf k history = h.taken
  returned : ∀ ⦃r⦄, .returned k r ∈ history → h.table.kept? = some r
  stage : h.stage ≠ .idle → h.table.kept? = none

theorem asksOf_concat_of_ne (he : e.table? ≠ some k) : asksOf k (history ++ [e]) = asksOf k history := by
  rw [asksOf, List.filterMap_append]
  cases e with
  | asked table? n x created =>
    have hne : table? ≠ some k := he
    simp [asksOf, hne]
  | _ => exact List.append_nil _

/-- Nothing changes for a join table by what happens elsewhere. -/
theorem Sound.elsewhere (sound : Sound history k h) (he : e.table? ≠ some k) :
    Sound (history ++ [e]) k h where
  asks := (asksOf_concat_of_ne he).trans sound.asks
  returned r hr := by
    rcases List.mem_append.mp hr with hr | hr
    · exact sound.returned hr
    · obtain rfl := List.mem_singleton.mp hr
      exact absurd rfl he
  stage := sound.stage

/-- A join table that returns what it keeps. -/
theorem Sound.returning (sound : Sound history k h) (kept : h.table.kept? = some r) :
    Sound (history ++ [.returned k r]) k h where
  asks := by
    rw [← sound.asks, asksOf, List.filterMap_append]
    exact List.append_nil _
  returned x hx := by
    rcases List.mem_append.mp hx with hx | hx
    · exact sound.returned hx
    · cases List.mem_singleton.mp hx
      exact kept
  stage := sound.stage

/-- A join table that has nothing yet, and finds its type. -/
theorem Sound.finding {created : Bool} (sound : Sound history k ⟨j, .looking⟩) :
    Sound (history ++ [.asked (some k) j.typeName r created]) k ⟨j, .holding r⟩ where
  asks := by
    have hkept : j.kept? = none := sound.stage nofun
    have hnone : asksOf k history = [] := by
      rw [sound.asks, Handle.taken, hkept]
    rw [asksOf, List.filterMap_append, ← asksOf, hnone]
    simp [Handle.taken, hkept]
  returned x hx := by
    rcases List.mem_append.mp hx with hx | hx
    · exact sound.returned hx
    · cases List.mem_singleton.mp hx
  stage _ := sound.stage nofun

/-- A join table that keeps the type it has found, and returns it. -/
theorem Sound.keeping (sound : Sound history k ⟨j, .holding r⟩) :
    Sound (history ++ [.returned k r]) k ⟨{ j with kept? := some r }, .idle⟩ := by
  have hkept : j.kept? = none := sound.stage nofun
  refine Sound.returning ⟨?_, fun x hx => ?_, fun hstage => absurd rfl hstage⟩ rfl
  · rw [sound.asks, Handle.taken, hkept]
    rfl
  · have hx := sound.returned hx
    rw [hkept] at hx
    cases hx

/-! ## The invariant -/

/-- The serial numbers that have been given away. -/
def Below (n : Nat) (history : List Event) : Prop := ∀ e ∈ history, ∀ r, e.type? = some r → r.serial < n

/-- What holds in every state. -/
structure Invariant (s : State) : Prop where
  lookup : ∀ name, s.catalog.lookup name = found s.history name
  right : ∀ ⦃before e rest⦄, s.history = before ++ e :: rest → Right before e
  sound : ∀ ⦃k h⦄, s.handles[k]? = some h → Sound s.history k h
  /-- Nothing is asked for by a join table that is not there yet. -/
  begun : ∀ ⦃k⦄, s.handles.length ≤ k → ∀ e ∈ s.history, e.table? ≠ some k
  below : Below s.catalog.next s.history

theorem invariant_initial : Invariant ⟨.empty i, [], []⟩ where
  lookup _ := rfl
  right before e rest h := by simp at h
  sound k h hk := by cases hk
  begun _ _ := List.forall_mem_nil _
  below := List.forall_mem_nil _

/-- A type that is found was seen. -/
theorem exists_mem_of_found (h : found history name = some r) : ∃ e ∈ history, e.type? = some r := by
  induction history using List.reverseRecOn with
  | nil => cases h
  | append_singleton history e ih =>
    rw [found_concat, leaves] at h
    split at h
    · exact ⟨e, List.mem_append_right _ List.mem_cons_self, h⟩
    · obtain ⟨e', he', hr⟩ := ih h
      exact ⟨e', List.mem_append_left _ he', hr⟩

theorem right_concat (h : ∀ ⦃before e rest⦄, history = before ++ e :: rest → Right before e)
    (he : Right history e) ⦃before : List Event⦄ ⦃e' : Event⦄ ⦃rest : List Event⦄
    (split : history ++ [e] = before ++ e' :: rest) : Right before e' := by
  rcases List.eq_nil_or_concat rest with rfl | ⟨rest, last, rfl⟩
  · obtain ⟨rfl, hlast⟩ := List.append_inj' split rfl
    cases hlast
    exact he
  · rw [List.concat_eq_append, ← List.cons_append, ← List.append_assoc] at split
    exact h (List.append_inj' split rfl).1

/-- One more event, which is as it has to be, and a change of the join table that it is about. -/
theorem Invariant.concat {c : Catalog} {handles : List Handle} (inv : Invariant s)
    (hlookup : ∀ name, c.lookup name = leaves name (s.catalog.lookup name) e)
    (hright : Right s.history e) (hnext : s.catalog.next ≤ c.next)
    (hbelow : ∀ r, e.type? = some r → r.serial < c.next)
    (hsound : ∀ ⦃k h⦄, handles[k]? = some h → Sound (s.history ++ [e]) k h)
    (hlength : s.handles.length ≤ handles.length)
    (htable : ∀ k, e.table? = some k → k < s.handles.length) :
    Invariant ⟨c, handles, s.history ++ [e]⟩ where
  lookup name := by rw [hlookup, found_concat, inv.lookup]
  right := right_concat inv.right hright
  sound := hsound
  begun k hk := by
    refine List.forall_mem_append.mpr ⟨inv.begun (Nat.le_trans hlength hk), List.forall_mem_singleton.mpr ?_⟩
    intro he
    exact absurd (htable k he) (Nat.not_lt.mpr (Nat.le_trans hlength hk))
  below := by
    refine List.forall_mem_append.mpr ⟨fun e' he' r hr => ?_, List.forall_mem_singleton.mpr hbelow⟩
    exact Nat.lt_of_lt_of_le (inv.below e' he' r hr) hnext

/-! ## Every step keeps it -/

/-- A type with the next serial number has not been seen. -/
theorem Invariant.unseen (inv : Invariant s) (hr : r.serial = s.catalog.next) : Unseen s.history r := by
  intro e he htype
  have hlt := inv.below e he r htype
  omega

theorem Invariant.register (inv : Invariant s) (name : String) (e : EntityType) :
    Invariant ⟨(s.catalog.put name e).2, s.handles,
      s.history ++ [.registered name (s.catalog.put name e).1]⟩ := by
  refine inv.concat (fun n => ?_) (inv.unseen rfl) (Nat.le_succ _) ?_ ?_ (Nat.le_refl _) nofun
  · rw [Catalog.lookup_put]
    simp [leaves, Event.name?, Event.type?, eq_comm]
  · rintro r ⟨⟩
    exact Nat.lt_succ_self _
  · exact fun k h hk => (inv.sound hk).elsewhere nofun

theorem Invariant.lookedUp (inv : Invariant s) (name : String) :
    Invariant { s with history := s.history ++ [.lookedUp name (s.catalog.lookup name)] } := by
  refine inv.concat (fun n => rfl) (inv.lookup name) (Nat.le_refl _) (fun r hr => ?_)
    (fun k h hk => (inv.sound hk).elsewhere nofun) (Nat.le_refl _) nofun
  have hr : s.catalog.lookup name = some r := hr
  rw [inv.lookup] at hr
  obtain ⟨e, he, htype⟩ := exists_mem_of_found hr
  exact inv.below e he r htype

theorem getOrRegister_of_some {c : Catalog} (h : c.lookup name = some r) (build : EntityType) :
    c.getOrRegister name build = (r, false, c) := by
  rw [Catalog.getOrRegister, h]

theorem getOrRegister_of_none {c : Catalog} (h : c.lookup name = none) (build : EntityType) :
    c.getOrRegister name build = ((c.put name build).1, true, (c.put name build).2) := by
  rw [Catalog.getOrRegister, h]

/-- The catalog is asked for a type, by whomever. -/
theorem Invariant.asked {table? : Option Nat} {build : EntityType} {created : Bool} {c : Catalog}
    {handles : List Handle} (inv : Invariant s)
    (access : s.catalog.getOrRegister name build = (r, created, c))
    (hsound : ∀ ⦃k h⦄, handles[k]? = some h →
      Sound (s.history ++ [.asked table? name r created]) k h)
    (hlength : s.handles.length = handles.length)
    (htable : ∀ k, table? = some k → k < s.handles.length) :
    Invariant ⟨c, handles, s.history ++ [.asked table? name r created]⟩ := by
  have hlookup : ∀ n, c.lookup n =
      leaves n (s.catalog.lookup n) (.asked table? name r created) := by
    intro n
    have hfound := Catalog.lookup_getOrRegister (c := s.catalog) name build n
    rw [access] at hfound
    simpa [leaves, Event.name?, Event.type?, eq_comm] using hfound
  cases hfound : s.catalog.lookup name with
  | some x =>
    cases (getOrRegister_of_some hfound build).symm.trans access
    rw [inv.lookup] at hfound
    refine inv.concat hlookup hfound (Nat.le_refl _) ?_ hsound (Nat.le_of_eq hlength) htable
    rintro x ⟨⟩
    obtain ⟨e, he, htype⟩ := exists_mem_of_found hfound
    exact inv.below e he r htype
  | none =>
    cases (getOrRegister_of_none hfound build).symm.trans access
    rw [inv.lookup] at hfound
    refine inv.concat hlookup ⟨hfound, inv.unseen rfl⟩ (Nat.le_succ _) ?_ hsound
      (Nat.le_of_eq hlength) htable
    rintro x ⟨⟩
    exact Nat.lt_succ_self _

/-- The change of one join table. -/
theorem sound_set {handles : List Handle} {history' : List Event} (hlt : k < handles.length)
    (self : Sound history' k h)
    (others : ∀ ⦃k' h'⦄, k' ≠ k → handles[k']? = some h' → Sound history' k' h') ⦃k' : Nat⦄
    ⦃h' : Handle⦄ (at_ : (handles.set k h)[k']? = some h') : Sound history' k' h' := by
  by_cases hk : k' = k
  · subst hk
    rw [List.getElem?_set_self hlt] at at_
    cases at_
    exact self
  · rw [List.getElem?_set_ne (Ne.symm hk)] at at_
    exact others hk at_

theorem lt_of_at {handles : List Handle} (at_ : handles[k]? = some h) : k < handles.length :=
  (List.getElem?_eq_some_iff.mp at_).1

/-- A join table that begins to look for its type, or gives up. -/
theorem Invariant.restage (inv : Invariant s) {stage stage' : Stage}
    (at_ : s.handles[k]? = some ⟨j, stage⟩) (kept : j.kept? = none)
    (htaken : Handle.taken ⟨j, stage⟩ = Handle.taken ⟨j, stage'⟩) :
    Invariant { s with handles := s.handles.set k ⟨j, stage'⟩ } where
  lookup := inv.lookup
  right := inv.right
  sound := by
    have sound := inv.sound at_
    exact sound_set (lt_of_at at_) ⟨sound.asks.trans htaken, sound.returned, fun _ => kept⟩
      fun _ _ _ hk => inv.sound hk
  begun k' hk' := inv.begun (by simpa using hk')
  below := inv.below

theorem Invariant.between (inv : Invariant s) (source destination : EntityType)
    (options : StorageOptions) :
    Invariant { s with handles := s.handles ++ [⟨.between source destination options, .idle⟩] } where
  lookup := inv.lookup
  right := inv.right
  sound := by
    intro k h hk
    rcases Nat.lt_or_ge k s.handles.length with hlt | hge
    · rw [List.getElem?_append_left hlt] at hk
      exact inv.sound hk
    · rw [List.getElem?_append_right hge, List.getElem?_singleton] at hk
      split at hk
      · cases hk
        refine ⟨List.filterMap_eq_nil_iff.mpr fun e he => ?_, fun r hr => ?_, fun h => absurd rfl h⟩
        · have hne := inv.begun hge e he
          cases e with
          | asked table? n x created => exact if_neg hne
          | _ => rfl
        · exact absurd rfl (inv.begun hge _ hr)
      · cases hk
  begun k hk := inv.begun (by simp at hk; omega)
  below := inv.below

/-- A join table that returns a type. -/
theorem Invariant.returning (inv : Invariant s) {h' : Handle} (at_ : s.handles[k]? = some h)
    (hseen : ∃ e ∈ s.history, e.type? = some r)
    (sound : Sound (s.history ++ [.returned k r]) k h') :
    Invariant { s with handles := s.handles.set k h', history := s.history ++ [.returned k r] } := by
  refine inv.concat (fun n => rfl) trivial (Nat.le_refl _) ?_
    (sound_set (lt_of_at at_) sound fun k' h' hk hk' => (inv.sound hk').elsewhere ?_)
    (Nat.le_of_eq (by simp)) ?_
  · rintro x ⟨⟩
    obtain ⟨e, he, htype⟩ := hseen
    exact inv.below e he r htype
  · rintro ⟨⟩
    exact hk rfl
  · rintro k' ⟨⟩
    exact lt_of_at at_

/-- What a join table has asked for was seen. -/
theorem Sound.seen (sound : Sound history k h) (taken : h.taken = [(h.table.typeName, r)]) :
    ∃ e ∈ history, e.type? = some r := by
  have hmem : (h.table.typeName, r) ∈ asksOf k history := by simp [sound.asks, taken]
  obtain ⟨e, he, hr⟩ := List.mem_filterMap.mp hmem
  refine ⟨e, he, ?_⟩
  cases e with
  | asked table? n x created =>
    by_cases ht : table? = some k <;> simp [ht] at hr
    rw [Event.type?, hr.2]
  | _ => cases hr

theorem Invariant.step (inv : Invariant s) (next : Step s s') : Invariant s' := by
  cases next with
  | register e => exact inv.register e.name e
  | define name => exact inv.register name _
  | lookup name => exact inv.lookedUp name
  | getOrRegister name build =>
    exact inv.asked rfl (fun k h hk => (inv.sound hk).elsewhere nofun) rfl nofun
  | between source destination options => exact inv.between source destination options
  | begin at_ kept => exact inv.restage at_ kept (by simp [Handle.taken, kept])
  | @abandon k j at_ =>
    have kept : j.kept? = none := (inv.sound at_).stage nofun
    exact inv.restage at_ kept (by simp [Handle.taken, kept])
  | @find k j r created c at_ access =>
    refine inv.asked access ?_ (by simp) ?_
    · refine sound_set (lt_of_at at_) (inv.sound at_).finding fun k' h' hk hk' => ?_
      refine (inv.sound hk').elsewhere ?_
      rintro ⟨⟩
      exact hk rfl
    · rintro k' ⟨⟩
      exact lt_of_at at_
  | @keep k j r at_ =>
    have sound := inv.sound at_
    have kept : j.kept? = none := sound.stage nofun
    exact inv.returning at_ (sound.seen (by simp [Handle.taken, kept])) sound.keeping
  | @reuse k h r at_ kept =>
    have sound := inv.sound at_
    have hseen := sound.seen (r := r) (by simp [Handle.taken, kept])
    have returning := inv.returning at_ hseen (sound.returning kept)
    have hset : s.handles.set k h = s.handles := by
      obtain ⟨hlt, hget⟩ := List.getElem?_eq_some_iff.mp at_
      rw [← hget, List.set_getElem_self]
    rwa [hset] at returning

theorem Reachable.invariant (reached : Reachable i s) : Invariant s := by
  induction reached with
  | initial => exact invariant_initial
  | step _ next inv => exact inv.step next

/-! ## An undisturbed call -/

/-- The steps of a call that nobody disturbs do what `joinType` does. -/
theorem steps_joinType (at_ : s.handles[k]? = some ⟨j, .idle⟩) :
    ∃ history, Relation.ReflTransGen Step s
      ⟨(j.joinType s.catalog).2.2, s.handles.set k ⟨(j.joinType s.catalog).2.1, .idle⟩,
        history ++ [.returned k (j.joinType s.catalog).1]⟩ := by
  have hlt := lt_of_at at_
  cases hkept : j.kept? with
  | some r =>
    refine ⟨s.history, ?_⟩
    rw [JoinTable.joinType_of_kept hkept, ← (List.getElem?_eq_some_iff.mp at_).2,
      List.set_getElem_self]
    exact .single (.reuse at_ hkept)
  | none =>
    rw [JoinTable.joinType_of_none hkept]
    have looking := Relation.ReflTransGen.single (Step.begin at_ hkept)
    have holding := looking.tail (.find (List.getElem?_set_self hlt) rfl)
    rw [List.set_set] at holding
    have kept := holding.tail (.keep (List.getElem?_set_self hlt))
    rw [List.set_set] at kept
    exact ⟨_, kept⟩

/-! ## Types are shared -/

theorem history_step (next : Step s s') :
    s'.history = s.history ∨ ∃ e, s'.history = s.history ++ [e] := by
  cases next with
  | between | begin | abandon => exact .inl rfl
  | _ => exact .inr ⟨_, rfl⟩

/-- A step leaves a type under its name, unless it registers another one. -/
theorem Invariant.lookup_step (inv : Invariant s) (next : Step s s')
    (hr : s.catalog.lookup name = some r) :
    s'.catalog.lookup name = some r ∨ ∃ x, s'.history = s.history ++ [.registered name x] := by
  have inv' := inv.step next
  rw [inv.lookup] at hr
  rw [inv'.lookup]
  rcases history_step next with hsame | ⟨e, hnew⟩
  · rw [hsame]
    exact .inl hr
  · by_cases he : ∃ x, e = .registered name x
    · obtain ⟨x, rfl⟩ := he
      exact .inr ⟨x, hnew⟩
    · left
      rw [hnew]
      refine found_append (fun m e' rest hm => ?_) hr fun x hx => ?_
      · have split : s'.history = s.history ++ m ++ e' :: rest := by
          rw [hnew, hm, List.append_assoc]
        exact inv'.right split
      · exact he ⟨x, (List.mem_singleton.mp hx).symm⟩

/-- What is created under a name comes before everything else under that name. -/
theorem Invariant.name?_ne_of_creates {rest : List Event} (inv : Invariant s)
    (split : s.history = before ++ e :: rest) (he : e.Creates name) :
    ∀ e' ∈ before, e'.name? ≠ some name := by
  obtain ⟨table?, r, rfl⟩ := he
  exact name?_ne_of_found_eq_none (inv.right split).1

/-- Whoever asks for a name later gets the same type, unless one is registered in between. -/
theorem Invariant.eq_of_asked {table? table?' : Option Nat} {r' : Registered} {created created' : Bool}
    {mid rest : List Event} (inv : Invariant s)
    (split : s.history = before ++ .asked table? name r created :: mid ++
      .asked table?' name r' created' :: rest)
    (unchanged : ∀ x, .registered name x ∉ mid) : r = r' := by
  have hfirst : found (before ++ [.asked table? name r created]) name = some r := by
    rw [found_concat]
    exact if_pos rfl
  have hbetween : ∀ m e rest', mid = m ++ e :: rest' →
      Right (before ++ [.asked table? name r created] ++ m) e := by
    intro m e rest' hm
    have split' : s.history = before ++ [.asked table? name r created] ++ m ++
        e :: (rest' ++ .asked table?' name r' created' :: rest) := by
      rw [split, hm]
      simp
    exact inv.right split'
  have hfound := found_append hbetween hfirst unchanged
  have hright := inv.right split
  rw [List.append_assoc, List.singleton_append] at hfound
  cases created' with
  | true =>
    rw [hright.1] at hfound
    cases hfound
  | false => exact Option.some.inj (hfound.symm.trans hright)

/-- What a join table returns is what it asked for, once. -/
theorem Invariant.asksOf_of_returned (inv : Invariant s) (at_ : s.handles[k]? = some h)
    (hr : .returned k r ∈ s.history) : asksOf k s.history = [(h.table.typeName, r)] := by
  have sound := inv.sound at_
  rw [sound.asks, Handle.taken, sound.returned hr]

/-- What is made is told from all that was seen before. -/
theorem Invariant.unseen_of_makes {rest : List Event} (inv : Invariant s)
    (split : s.history = before ++ e :: rest) (he : e.Makes r) : Unseen before r := by
  rcases he with ⟨name, rfl⟩ | ⟨table?, name, rfl⟩
  · exact inv.right split
  · exact (inv.right split).2

theorem exists_asked_of_asksOf (h : asksOf k history = [(name, r)]) :
    ∃ created, .asked (some k) name r created ∈ history := by
  have hmem : (name, r) ∈ asksOf k history := by simp [h]
  obtain ⟨e, he, hr⟩ := List.mem_filterMap.mp hmem
  cases e with
  | asked table? n x created =>
    by_cases ht : table? = some k
    · simp only [ht, if_true] at hr
      cases hr
      exact ⟨created, ht ▸ he⟩
    · simp [ht] at hr
  | _ => cases hr

/-- One of two things that have happened happened first. -/
theorem exists_split {e' : Event} (he : e ∈ history) (he' : e' ∈ history) (hne : e ≠ e') :
    (∃ before mid rest, history = before ++ e :: mid ++ e' :: rest) ∨
      ∃ before mid rest, history = before ++ e' :: mid ++ e :: rest := by
  obtain ⟨before, rest, rfl⟩ := List.append_of_mem he
  rcases List.mem_append.mp he' with h | h
  · obtain ⟨before, mid, rfl⟩ := List.append_of_mem h
    exact .inr ⟨before, mid, rest, rfl⟩
  · obtain ⟨mid, rest, rfl⟩ := List.append_of_mem (List.mem_of_ne_of_mem hne.symm h)
    exact .inl ⟨before, mid, rest, by simp⟩

/-- Nothing is registered under a name between the events of two kinds. -/
def UndisturbedBetween (history : List Event) (name : String) (p q : Event → Prop) : Prop :=
  ∀ before e mid e' rest, history = before ++ e :: mid ++ e' :: rest → (p e ∧ q e' ∨ q e ∧ p e') →
    ∀ x, .registered name x ∉ mid

theorem Invariant.eq_of_returned (inv : Invariant s) {k' : Nat} {h' : Handle} {r' : Registered}
    (at_ : s.handles[k]? = some h) (at_' : s.handles[k']? = some h')
    (hname : h.table.typeName = h'.table.typeName) (hr : .returned k r ∈ s.history)
    (hr' : .returned k' r' ∈ s.history)
    (undisturbed : UndisturbedBetween s.history h.table.typeName (Event.AskedBy k) (Event.AskedBy k')) :
    r = r' := by
  by_cases hk : k = k'
  · subst hk
    exact Option.some.inj (((inv.sound at_).returned hr).symm.trans ((inv.sound at_).returned hr'))
  · obtain ⟨created, hasked⟩ := exists_asked_of_asksOf (inv.asksOf_of_returned at_ hr)
    obtain ⟨created', hasked'⟩ := exists_asked_of_asksOf (inv.asksOf_of_returned at_' hr')
    rw [← hname] at hasked'
    have hne : Event.asked (some k) h.table.typeName r created ≠
        .asked (some k') h.table.typeName r' created' := by
      intro heq
      cases heq
      exact hk rfl
    rcases exists_split hasked hasked' hne with ⟨before, mid, rest, split⟩ | ⟨before, mid, rest, split⟩
    · refine inv.eq_of_asked split (undisturbed _ _ _ _ _ split (.inl ⟨?_, ?_⟩))
      · exact ⟨_, _, _, rfl⟩
      · exact ⟨_, _, _, rfl⟩
    · refine (inv.eq_of_asked split (undisturbed _ _ _ _ _ split (.inr ⟨?_, ?_⟩))).symm
      · exact ⟨_, _, _, rfl⟩
      · exact ⟨_, _, _, rfl⟩

/-- **Types are shared.** In every interleaving, what is made is told from all that was seen before; a
    type is created under a name at most once, and only if none was registered there before; the types in
    the catalog are left alone but for registrations; all calls on a join table return the type that it
    asked for once; and two join tables that ask for the same name return the same type, unless one is
    registered under that name between their requests. -/
theorem reachable_shares (reached : Reachable i s) :
    (∀ before e rest r, s.history = before ++ e :: rest → e.Makes r → Unseen before r) ∧
      (∀ name before e mid e' rest, s.history = before ++ e :: mid ++ e' :: rest → e.Creates name →
        ¬e'.Creates name) ∧
      (∀ name before e rest, s.history = before ++ e :: rest → e.Creates name →
        ∀ e' ∈ before, e'.name? ≠ some name) ∧
      (∀ s' name r, Step s s' → s.catalog.lookup name = some r →
        s'.catalog.lookup name = some r ∨ ∃ x, s'.history = s.history ++ [.registered name x]) ∧
      (∀ k r r', .returned k r ∈ s.history → .returned k r' ∈ s.history → r = r') ∧
      (∀ k h r, s.handles[k]? = some h → .returned k r ∈ s.history →
        asksOf k s.history = [(h.table.typeName, r)]) ∧
      ∀ k k' h h' r r', s.handles[k]? = some h → s.handles[k']? = some h' →
        h.table.typeName = h'.table.typeName → .returned k r ∈ s.history → .returned k' r' ∈ s.history →
        UndisturbedBetween s.history h.table.typeName (Event.AskedBy k) (Event.AskedBy k') → r = r' := by
  have inv := reached.invariant
  refine ⟨fun before e rest r split he => inv.unseen_of_makes split he, ?_,
    fun name before e rest split he => inv.name?_ne_of_creates split he,
    fun s' name r next hr => inv.lookup_step next hr, ?_,
    fun k h r at_ hr => inv.asksOf_of_returned at_ hr,
    fun k k' h h' r r' at_ at_' hname hr hr' => inv.eq_of_returned at_ at_' hname hr hr'⟩
  · rintro name before _ mid e' rest split ⟨table?, r, rfl⟩ he'
    have hbefore := inv.name?_ne_of_creates split he'
    exact hbefore (.asked table? name r true) (by simp) rfl
  · intro k r r' hr hr'
    have hk : k < s.handles.length := by
      by_contra hge
      exact inv.begun (Nat.le_of_not_lt hge) _ hr rfl
    have sound := inv.sound (List.getElem?_eq_getElem hk)
    exact Option.some.inj ((sound.returned hr).symm.trans (sound.returned hr'))

/-! ## Two join tables that begin at the same time -/

/-- A join table between posts and tags, before its first use. -/
def tagging : JoinTable := .between (.ofTable "Post" "posts") (.ofTable "Tag" "tags") ⟨none, none⟩

/-- The type of its rows. -/
def joined : Registered := ⟨0, tagging.builtType .english⟩

/-- A type that is registered in its place. -/
def links : Registered := ⟨1, .ofTable tagging.typeName "links"⟩

/-- Two join tables look at the same time. Before the second one returns, another type is registered. -/
def race : State where
  catalog := ⟨.english, [(tagging.typeName, links)], 2⟩
  handles := [⟨{ tagging with kept? := some joined }, .idle⟩,
    ⟨{ tagging with kept? := some joined }, .idle⟩]
  history := [.asked (some 1) tagging.typeName joined true,
    .asked (some 0) tagging.typeName joined false, .returned 0 joined,
    .registered tagging.typeName links, .returned 1 joined, .returned 0 joined]

theorem reachable_race : Reachable .english race := by
  have s₀ := Reachable.initial (i := .english)
  have s₁ := s₀.step (.between tagging.source tagging.destination tagging.options)
  have s₂ := s₁.step (.between tagging.source tagging.destination tagging.options)
  have s₃ := s₂.step (.begin (k := 0) rfl rfl)
  have s₄ := s₃.step (.begin (k := 1) rfl rfl)
  have s₅ := s₄.step (.find (k := 1) rfl (getOrRegister_of_none rfl _))
  have s₆ := s₅.step (.find (k := 0) (r := joined) rfl (getOrRegister_of_some (by
    rw [Catalog.lookup_put]; exact if_pos rfl) _))
  have s₇ := s₆.step (.keep (k := 0) rfl)
  have s₈ := s₇.step (.register links.entity)
  have s₉ := s₈.step (.keep (k := 1) rfl)
  have s₁₀ := s₉.step (.reuse (k := 0) (r := joined) rfl rfl)
  exact s₁₀

/-- Both asked before the other type was registered. -/
theorem undisturbedBetween_race :
    UndisturbedBetween race.history tagging.typeName (Event.AskedBy 0) (Event.AskedBy 1) := by
  intro before e mid e' rest split hasked x hx
  obtain ⟨mid, mid', rfl⟩ := List.append_of_mem hx
  have hlater : ∃ k, e'.AskedBy k := by
    rcases hasked with ⟨-, h⟩ | ⟨-, h⟩
    · exact ⟨1, h⟩
    · exact ⟨0, h⟩
  obtain ⟨k, name, r, created, rfl⟩ := hlater
  simp only [List.append_assoc, List.cons_append] at split
  rw [List.append_cons, ← List.append_assoc] at split
  generalize before ++ [e] ++ mid = front at split
  simp [race, List.cons_eq_append_iff, List.append_eq_cons_iff] at split

theorem race_shares :
    Reachable .english race ∧ .registered tagging.typeName links ∈ race.history ∧
      ∀ r r', .returned 0 r ∈ race.history → .returned 1 r' ∈ race.history → r = r' := by
  obtain ⟨-, -, -, -, -, -, shared⟩ := reachable_shares reachable_race
  exact ⟨reachable_race, by simp [race],
    fun r r' hr hr' => shared 0 1 _ _ r r' rfl rfl rfl hr hr' undisturbedBetween_race⟩

end SqlMapper.Sharing
