import Mathlib.Data.List.Perm.Basic
import SqlMapper.Database.Registry
import SqlMapper.Proofs.Database.Threads
import SqlMapper.Proofs.Transaction.Marks

/-!
# Marks of open transactions

Any number of transactions, of one adapter and its clones, and of marks that callers hold for themselves
come and go side by side. All of them use one registry, which gives every transaction an identifier of
its own. At every moment the registry holds the marks of those that have been entered and have not
finished, however they finish.

* `registry`: the registry after a history.
* `Balanced`: the marks in a registry are those that the programs have set, each by one of them.
* `Kept`: what the registry holds, and when it changes.
* `reachable_keeps_marks`: the registry of every interleaving is kept so.
-/

namespace SqlMapper

open Interleaving (History eventsOf eventsOf_concat_self eventsOf_concat_of_ne)
open Threads (Thread Reachable eventsOf_append eventsOf_cons_self mem_eventsOf_iff)

/-! ## One registry for all -/

/-- The registry after a request. -/
def Registry.after (r : Registry) : Event → Registry
  | ⟨.enter, _⟩ => r.enter.2
  | ⟨.leave id, _⟩ => r.leave id
  | _ => r

namespace Transaction

/-- The registry after a history. -/
def registry (history : History) : Registry :=
  history.foldl (fun r entry => r.after entry.2) .empty

/-- The mark that a program has set and not removed. -/
def markOf (k : Nat) (history : History) : Option TransactionId := markAfter none (eventsOf k history)

/-- What uses the registry. -/
inductive Begins : {α : Type} → Program α → Prop
  | transaction {α : Type} {b : Block Program α} (composed : Composed b) :
    Begins (run b : Task Program α).run
  | mark : Begins heldMark

/-- Who enters gets the identifier that the registry gives; all other answers are left open. -/
def rules : Threads.Rules where
  Begins := Begins
  Answers
    | history, ⟨.enter, id⟩ => id = (registry history).enter.1
    | _, _ => True

section Histories

variable {history : History} {k k' : Nat} {e : Event}

theorem registry_concat : registry (history ++ [(k, e)]) = (registry history).after e := by
  rw [registry, List.foldl_append]
  rfl

theorem markOf_concat_self :
    markOf k (history ++ [(k, e)]) = e.markAfter (markOf k history) := by
  rw [markOf, eventsOf_concat_self, markAfter_append]
  rfl

theorem markOf_concat_of_ne (h : k ≠ k') : markOf k' (history ++ [(k, e)]) = markOf k' history := by
  rw [markOf, eventsOf_concat_of_ne h, markOf]

end Histories

/-! ## Accounting -/

/-- If one more member of a list has a value, the list of all values has one more. -/
theorem filterMap_perm_cons {β : Type} {f g : Nat → Option β} {k : Nat} {b : β}
    (hf : f k = none) (hg : g k = some b) (same : ∀ j, j ≠ k → g j = f j) {ks : List Nat}
    (nodup : ks.Nodup) (hk : k ∈ ks) : (ks.filterMap g).Perm (b :: ks.filterMap f) := by
  induction ks with
  | nil => cases hk
  | cons j ks ih =>
    obtain ⟨hj, nodup⟩ := List.nodup_cons.mp nodup
    by_cases hjk : j = k
    · subst hjk
      have rest : ks.filterMap g = ks.filterMap f :=
        List.filterMap_congr fun i hi => same i fun h => hj (h ▸ hi)
      rw [List.filterMap_cons_some hg, List.filterMap_cons_none hf, rest]
    · have hmem : k ∈ ks := (List.mem_cons.mp hk).resolve_left (Ne.symm hjk)
      cases hfj : f j with
      | none =>
        rw [List.filterMap_cons_none hfj, List.filterMap_cons_none ((same j hjk).trans hfj)]
        exact ih nodup hmem
      | some c =>
        rw [List.filterMap_cons_some hfj, List.filterMap_cons_some ((same j hjk).trans hfj)]
        exact ((ih nodup hmem).cons c).trans (.swap b c _)

/-- The marks in a registry are those that the first `n` programs have set, each by one of them. -/
structure Balanced (r : Registry) (n : Nat) (mark : Nat → Option TransactionId) : Prop where
  perm : r.opened.Perm ((List.range n).filterMap mark)
  nodup : r.opened.Nodup
  old : ∀ id ∈ r.opened, id.serial < r.next

namespace Balanced

variable {r : Registry} {n k : Nat} {mark mark' : Nat → Option TransactionId} {id : TransactionId}

theorem succ (h : Balanced r n mark) (idle : mark n = none) : Balanced r (n + 1) mark := by
  refine ⟨?_, h.nodup, h.old⟩
  rw [List.range_succ, List.filterMap_append, List.filterMap_cons_none idle, List.filterMap_nil,
    List.append_nil]
  exact h.perm

theorem enter (h : Balanced r n mark) (hk : k < n) (idle : mark k = none)
    (marked : mark' k = some r.enter.1) (same : ∀ j, j ≠ k → mark' j = mark j) :
    Balanced r.enter.2 n mark' := by
  have fresh : r.enter.1 ∉ r.opened := fun hmem => Nat.lt_irrefl _ (h.old _ hmem)
  have step := filterMap_perm_cons idle marked same List.nodup_range (List.mem_range.mpr hk)
  refine ⟨?_, ?_, ?_⟩
  · exact (List.perm_append_singleton _ _).trans ((h.perm.cons _).trans step.symm)
  · exact (List.perm_append_singleton _ _).nodup_iff.mpr (List.nodup_cons.mpr ⟨fresh, h.nodup⟩)
  · intro id hid
    rcases List.mem_append.mp hid with hid | hid
    · exact Nat.lt_succ_of_lt (h.old id hid)
    · rw [List.mem_singleton.mp hid]
      exact Nat.lt_succ_self _

theorem leave (h : Balanced r n mark) (hk : k < n) (marked : mark k = some id)
    (idle : mark' k = none) (same : ∀ j, j ≠ k → mark' j = mark j) : Balanced (r.leave id) n mark' := by
  have step := filterMap_perm_cons idle marked (fun j hj => (same j hj).symm) List.nodup_range
    (List.mem_range.mpr hk)
  refine ⟨?_, h.nodup.erase id, fun id' hid' => h.old id' (List.mem_of_mem_erase hid')⟩
  have erased := (h.perm.trans step).erase id
  rwa [List.erase_cons_head] at erased

theorem contains_iff (h : Balanced r n mark) (idle : ∀ k, n ≤ k → mark k = none) :
    r.contains id = true ↔ ∃ k, mark k = some id := by
  rw [Registry.contains, List.contains_iff_mem, h.perm.mem_iff, List.mem_filterMap]
  constructor
  · rintro ⟨k, -, hk⟩
    exact ⟨k, hk⟩
  · rintro ⟨k, hk⟩
    refine ⟨k, List.mem_range.mpr (Nat.lt_of_not_le fun hle => ?_), hk⟩
    rw [idle k hle] at hk
    cases hk

theorem count_eq (h : Balanced r n mark) :
    r.count = (List.range n).countP fun k => (mark k).isSome := by
  rw [Registry.count, h.perm.length_eq, List.length_filterMap_eq_countP]

/-- No two programs have the same mark. -/
theorem eq_of_mark (h : Balanced r n mark) (idle : ∀ k, n ≤ k → mark k = none) {j : Nat}
    (hj : mark j = some id) (hk : mark k = some id) : j = k := by
  have lt_of_mark : ∀ {i : Nat}, mark i = some id → i < n := by
    intro i hi
    refine Nat.lt_of_not_le fun hle => ?_
    rw [idle i hle] at hi
    cases hi
  have pairwise := List.pairwise_filterMap.mp (h.perm.nodup_iff.mp h.nodup)
  have ne_of_lt : ∀ {i i' : Nat}, i < i' → mark i = some id → mark i' = some id → False := by
    intro i i' hlt hi hi'
    have hrange : i' < (List.range n).length := by
      rw [List.length_range]
      exact lt_of_mark hi'
    have apart := List.pairwise_iff_getElem.mp pairwise i i' (Nat.lt_trans hlt hrange) hrange hlt
    simp only [List.getElem_range] at apart
    exact apart id hi id hi' rfl
  rcases Nat.lt_trichotomy j k with hlt | heq | hlt
  · exact (ne_of_lt hlt hj hk).elim
  · exact heq
  · exact (ne_of_lt hlt hk hj).elim

end Balanced

/-! ## The invariant -/

variable {s : Threads.State} {k : Nat}

theorem Begins.markedOnce {α : Type} {p : Program α} (begins : Begins p) {es : List Event} {a : α}
    (ran : p.Runs es a) : MarkedOnce es := by
  cases begins with
  | transaction composed => exact markedOnce_run composed ran
  | mark => exact markedOnce_heldMark ran

/-- What a program asks for is proper where it stands. -/
theorem proper_of_reachable (reached : Reachable rules s) {before after : History} {e : Event}
    (h : s.history = before ++ (k, e) :: after) : e.Proper (markOf k before) := by
  have hmem : (k, e) ∈ s.history := h ▸ List.mem_append_right _ List.mem_cons_self
  obtain ⟨t, ht⟩ := reached.exists_thread hmem
  obtain ⟨rest, a, ran, -⟩ := reached.exists_run ht
  have proper := ((reached.reaches.1 k t ht).1.markedOnce ran).proper
  rw [h, eventsOf_append, eventsOf_cons_self, List.append_assoc, proper_append] at proper
  exact proper.2.1

theorem markOf_eq_none (reached : Reachable rules s) (hk : s.threads.length ≤ k) :
    markOf k s.history = none := by
  rw [markOf, reached.reaches.2 k hk]
  rfl

theorem balanced_of_reachable (reached : Reachable rules s) :
    Balanced (registry s.history) s.threads.length (markOf · s.history) := by
  induction reached with
  | initial => exact ⟨.nil, List.nodup_nil, fun id hid => by cases hid⟩
  | @step s s' reached next ih =>
    cases next with
    | start begins =>
      rw [List.length_append]
      exact ih.succ (markOf_eq_none reached (Nat.le_refl _))
    | @ask k α p r next thread x answers =>
      have proper : Event.Proper (markOf k s.history) ⟨r, x⟩ :=
        proper_of_reachable (reached.step (.ask thread x answers)) rfl
      have marked : markOf k (s.history ++ [(k, ⟨r, x⟩)]) = Event.markAfter (markOf k s.history) ⟨r, x⟩ :=
        markOf_concat_self
      have same : ∀ j, j ≠ k → markOf j (s.history ++ [(k, ⟨r, x⟩)]) = markOf j s.history :=
        fun j hj => markOf_concat_of_ne hj.symm
      obtain ⟨hlt, -⟩ := List.getElem?_eq_some_iff.mp thread
      rw [List.length_set, registry_concat]
      cases r with
      | enter =>
        obtain rfl := answers
        exact ih.enter hlt proper marked same
      | leave id => exact ih.leave hlt proper marked same
      | _ =>
        have unchanged : (markOf · (s.history ++ [(k, ⟨_, x⟩)])) = (markOf · s.history) := by
          funext j
          by_cases hj : j = k
          · subst hj
            exact marked
          · exact same j hj
        show Balanced (registry s.history) _ _
        rw [unchanged]
        exact ih

/-! ## What the registry holds -/

/-- The registry holds the marks of those that have been entered and not left. It holds the mark of a
    transaction from its BEGIN to its last statement; a mark that was set is removed once, by who has set
    it, and together with it no other. -/
structure Kept (s : Threads.State) : Prop where
  contains_iff : ∀ id, (registry s.history).contains id = true ↔ ∃ k, markOf k s.history = some id
  apart : ∀ j k id, markOf j s.history = some id → markOf k s.history = some id → j = k
  count_eq : (registry s.history).count =
    (List.range s.threads.length).countP fun k => (markOf k s.history).isSome
  during : ∀ before k e conn after, s.history = before ++ (k, e) :: after → e.used? = some conn →
    ∃ id, markOf k before = some id ∧ (registry before).contains id = true
  stays : ∀ before k id mid after, s.history = before ++ (k, ⟨.enter, id⟩) :: mid ++ after →
    (k, ⟨.leave id, ()⟩) ∉ mid → (registry (before ++ (k, ⟨.enter, id⟩) :: mid)).contains id = true
  leaves : ∀ before k id after, s.history = before ++ (k, ⟨.leave id, ()⟩) :: after →
    markOf k before = some id ∧ ∀ id', (registry (before ++ [(k, ⟨.leave id, ()⟩)])).contains id' = true ↔
      id' ≠ id ∧ (registry before).contains id' = true
  once : ∀ k t, s.threads[k]? = some t →
    (∃ id, (eventsOf k s.history).filter Event.isMark <+: [⟨.enter, id⟩, ⟨.leave id, ()⟩]) ∧
      (t.Ended → (eventsOf k s.history).filter Event.isMark = [] ∨
        ∃ id, (eventsOf k s.history).filter Event.isMark = [⟨.enter, id⟩, ⟨.leave id, ()⟩])

theorem contains_iff_of_reachable (reached : Reachable rules s) (id : TransactionId) :
    (registry s.history).contains id = true ↔ ∃ k, markOf k s.history = some id :=
  (balanced_of_reachable reached).contains_iff fun _ hk => markOf_eq_none reached hk

/-- The mark of a program is in the registry at every moment until the program removes it. -/
theorem contains_until_left (reached : Reachable rules s) {before mid after : History}
    {id : TransactionId} (h : s.history = before ++ (k, ⟨.enter, id⟩) :: mid ++ after)
    (keeps : (k, ⟨.leave id, ()⟩) ∉ mid) :
    (registry (before ++ (k, ⟨.enter, id⟩) :: mid)).contains id = true := by
  obtain ⟨s', reached', hs'⟩ := reached.exists_before h
  obtain ⟨t, ht⟩ := reached'.exists_thread (k := k) (e := ⟨.enter, id⟩)
    (hs' ▸ List.mem_append_right _ List.mem_cons_self)
  obtain ⟨rest, a, ran, -⟩ := reached'.exists_run ht
  have proper := ((reached'.reaches.1 k t ht).1.markedOnce ran).proper
  rw [hs', eventsOf_append, eventsOf_cons_self, List.append_assoc, proper_append,
    List.cons_append] at proper
  have own : ⟨.leave id, ()⟩ ∉ eventsOf k mid := mem_eventsOf_iff.not.mpr keeps
  rw [← hs', contains_iff_of_reachable reached']
  refine ⟨k, ?_⟩
  rw [hs', markOf, eventsOf_append, eventsOf_cons_self, markAfter_append]
  exact markAfter_of_not_mem (proper_append.mp proper.2.2).1 own

/-- With a mark no other mark is removed. -/
theorem contains_after_leave (reached : Reachable rules s) {id id' : TransactionId} {k : Nat} :
    (registry (s.history ++ [(k, ⟨.leave id, ()⟩)])).contains id' = true ↔
      id' ≠ id ∧ (registry s.history).contains id' = true := by
  rw [registry_concat, Registry.contains, Registry.contains, List.contains_iff_mem,
    List.contains_iff_mem]
  exact (balanced_of_reachable reached).nodup.mem_erase_iff

/-- **The registry holds the marks of open transactions.** In every interleaving of transactions of one
    adapter and its clones, and of marks held by callers, whatever the driver answers, and wherever a
    transaction fails, panics or is given up. -/
theorem reachable_keeps_marks (reached : Reachable rules s) : Kept s where
  contains_iff := contains_iff_of_reachable reached
  apart := fun _ _ _ hj hk =>
    (balanced_of_reachable reached).eq_of_mark (fun _ h => markOf_eq_none reached h) hj hk
  count_eq := (balanced_of_reachable reached).count_eq
  during := by
    intro before k e conn after h hused
    obtain ⟨s', reached', rfl⟩ := reached.exists_before h
    obtain ⟨id, hid⟩ := Option.ne_none_iff_exists'.mp ((proper_of_reachable reached h).ne_none hused)
    exact ⟨id, hid, (contains_iff_of_reachable reached' id).mpr ⟨k, hid⟩⟩
  stays := fun before k id mid after h keeps => contains_until_left reached h keeps
  leaves := by
    intro before k id after h
    obtain ⟨s', reached', rfl⟩ := reached.exists_before h
    exact ⟨proper_of_reachable reached h, fun id' => contains_after_leave reached'⟩
  once := by
    intro k t ht
    obtain ⟨rest, a, ran, ended⟩ := reached.exists_run ht
    have once := ((reached.reaches.1 k t ht).1.markedOnce ran).once
    refine ⟨?_, fun h => by rwa [ended h, List.append_nil] at once⟩
    rw [List.filter_append] at once
    rcases once with hnone | ⟨id, hboth⟩
    · rw [(List.append_eq_nil_iff.mp hnone).1]
      exact ⟨⟨0⟩, List.nil_prefix⟩
    · exact ⟨id, hboth ▸ List.prefix_append _ _⟩

/-- A transaction that was given up while BEGIN was in flight, beside a mark that a caller still holds. -/
def givenUpBesideMark : Threads.State where
  threads := [
    ⟨Except Stop Unit, (run (pure () : Block Program Unit) : Task Program Unit).run,
      .done (.error .cancelled)⟩,
    ⟨Unit, heldMark, .ask (.leave ⟨0⟩) .done⟩]
  history := [(0, ⟨.acquire, .ok 1⟩), (1, ⟨.enter, ⟨0⟩⟩), (0, ⟨.enter, ⟨1⟩⟩), (0, ⟨.log "BEGIN", ()⟩),
    (0, ⟨.execute 1 "BEGIN", .error .cancelled⟩), (0, ⟨.leave ⟨1⟩, ()⟩), (0, ⟨.release 1 false, ()⟩)]

theorem reachable_givenUpBesideMark : Reachable rules givenUpBesideMark := by
  have s₁ : Reachable rules _ := Reachable.initial.step (.start (.transaction (.value ())))
  have s₂ := s₁.step (.start .mark)
  have s₃ := s₂.step (.ask (k := 0) (r := .acquire) rfl (.ok 1) trivial)
  have s₄ := s₃.step (.ask (k := 1) (r := .enter) rfl ⟨0⟩ rfl)
  have s₅ := s₄.step (.ask (k := 0) (r := .enter) rfl ⟨1⟩ rfl)
  have s₆ := s₅.step (.ask (k := 0) (r := .log "BEGIN") rfl () trivial)
  have s₇ := s₆.step (.ask (k := 0) (r := .execute 1 "BEGIN") rfl (.error .cancelled) trivial)
  have s₈ := s₇.step (.ask (k := 0) (r := .leave ⟨1⟩) rfl () trivial)
  have s₉ := s₈.step (.ask (k := 0) (r := .release 1 false) rfl () trivial)
  exact s₉

theorem givenUpBesideMark_keeps_marks :
    Reachable rules givenUpBesideMark ∧ Kept givenUpBesideMark ∧
      markOf 0 givenUpBesideMark.history = none ∧ markOf 1 givenUpBesideMark.history = some ⟨0⟩ :=
  ⟨reachable_givenUpBesideMark, reachable_keeps_marks reachable_givenUpBesideMark, rfl, rfl⟩

end Transaction

end SqlMapper
