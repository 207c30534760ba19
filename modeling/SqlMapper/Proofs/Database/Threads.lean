import SqlMapper.Proofs.Connection.Interleaving

/-!
# Programs side by side

Any number of programs run at the same time, with their requests in any order. Which programs may begin,
and which answers they may get after what has been asked so far, is left open.

* `Reachable`: the states of all interleavings.
* `Reachable.reaches`: every program has come as far as its own requests took it.
* `Reachable.exists_before`: the beginning of a history is the history of a state.
* `Reachable.answered`: every answer is allowed after the history before it.
-/

namespace SqlMapper.Threads

open Interleaving (History eventsOf eventsOf_concat_self eventsOf_concat_of_ne)

/-- A program that has begun, and what is left of it. -/
structure Thread where
  Answer : Type
  program : Program Answer
  rest : Program Answer

def Thread.Ended (t : Thread) : Prop := ∃ a, t.rest = .done a

/-- The programs that have begun, numbered in that order, and all that they have asked for. -/
structure State where
  threads : List Thread
  history : History

/-- Which programs may begin, and how a request may be answered after a history. -/
structure Rules where
  Begins : {α : Type} → Program α → Prop
  Answers : History → Event → Prop

variable {rules : Rules}

inductive Step (rules : Rules) (s : State) : State → Prop
  | start {α : Type} {p : Program α} (begins : rules.Begins p) :
    Step rules s ⟨s.threads ++ [⟨α, p, p⟩], s.history⟩
  | ask {k : Nat} {α : Type} {p : Program α} {r : Request} {next : r.Answer → Program α}
    (thread : s.threads[k]? = some ⟨α, p, .ask r next⟩) (x : r.Answer)
    (answers : rules.Answers s.history ⟨r, x⟩) :
    Step rules s ⟨s.threads.set k ⟨α, p, next x⟩, s.history ++ [(k, ⟨r, x⟩)]⟩

inductive Reachable (rules : Rules) : State → Prop
  | initial : Reachable rules ⟨[], []⟩
  | step {s s' : State} (reached : Reachable rules s) (next : Step rules s s') : Reachable rules s'

/-! ## What one program has asked for -/

variable {s : State} {k : Nat}

theorem eventsOf_append (k : Nat) (before after : History) :
    eventsOf k (before ++ after) = eventsOf k before ++ eventsOf k after :=
  List.filterMap_append

theorem eventsOf_cons_self (k : Nat) (e : Event) (after : History) :
    eventsOf k ((k, e) :: after) = e :: eventsOf k after := by
  simp [eventsOf]

theorem mem_eventsOf_iff {e : Event} {history : History} :
    e ∈ eventsOf k history ↔ (k, e) ∈ history := by
  unfold eventsOf
  rw [List.mem_filterMap]
  constructor
  · rintro ⟨⟨k', e'⟩, hmem, heq⟩
    obtain ⟨rfl, rfl⟩ : k' = k ∧ e' = e := by simpa using heq
    exact hmem
  · exact fun hmem => ⟨(k, e), hmem, if_pos rfl⟩

/-- Every program is one that may begin, and has come as far as its own requests took it; nothing is
    asked for by a program that has not begun. -/
theorem Reachable.reaches (reached : Reachable rules s) :
    (∀ (k : Nat) (t : Thread), s.threads[k]? = some t →
      rules.Begins t.program ∧ t.program.Reaches (eventsOf k s.history) t.rest) ∧
      ∀ k, s.threads.length ≤ k → eventsOf k s.history = [] := by
  induction reached with
  | initial =>
    refine ⟨?_, fun _ _ => rfl⟩
    intro k t ht
    cases ht
  | @step s s' reached next ih =>
    obtain ⟨begun, unseen⟩ := ih
    cases next with
    | @start α p begins =>
      refine ⟨?_, ?_⟩
      · intro k t ht
        rcases Nat.lt_or_ge k s.threads.length with hk | hk
        · rw [List.getElem?_append_left hk] at ht
          exact begun k t ht
        · rw [List.getElem?_append_right hk, List.getElem?_singleton] at ht
          split at ht
          · cases ht
            refine ⟨begins, ?_⟩
            show p.Reaches (eventsOf k s.history) p
            rw [unseen k hk]
            rfl
          · cases ht
      · intro k hk
        rw [List.length_append] at hk
        exact unseen k (Nat.le_trans (Nat.le_add_right _ _) hk)
    | @ask k α p r next thread x answers =>
      obtain ⟨hlt, -⟩ := List.getElem?_eq_some_iff.mp thread
      obtain ⟨begins, reaches⟩ := begun k _ thread
      refine ⟨?_, ?_⟩
      · intro k' t ht
        by_cases hk : k = k'
        · subst hk
          rw [List.getElem?_set_self hlt] at ht
          cases ht
          refine ⟨begins, ?_⟩
          show p.Reaches (eventsOf k (s.history ++ [(k, ⟨r, x⟩)])) (next x)
          rw [eventsOf_concat_self]
          exact reaches.snoc x
        · rw [List.getElem?_set_ne hk] at ht
          show rules.Begins t.program ∧ t.program.Reaches (eventsOf k' (s.history ++ [(k, ⟨r, x⟩)])) t.rest
          rw [eventsOf_concat_of_ne hk]
          exact begun k' t ht
      · intro k' hk'
        rw [List.length_set] at hk'
        show eventsOf k' (s.history ++ [(k, ⟨r, x⟩)]) = []
        rw [eventsOf_concat_of_ne (Nat.ne_of_lt (Nat.lt_of_lt_of_le hlt hk'))]
        exact unseen k' hk'

/-- What a program has asked for is the beginning of one of its runs, and the whole of it when the program
    has ended. -/
theorem Reachable.exists_run (reached : Reachable rules s) {t : Thread} (ht : s.threads[k]? = some t) :
    ∃ rest a, t.program.Runs (eventsOf k s.history ++ rest) a ∧ (t.Ended → rest = []) := by
  obtain ⟨-, reaches⟩ := reached.reaches.1 k t ht
  by_cases ended : t.Ended
  · obtain ⟨a, ha⟩ := ended
    rw [ha] at reaches
    exact ⟨[], a, reaches.runs ⟨rfl, rfl⟩, fun _ => rfl⟩
  · obtain ⟨rest, a, run⟩ := reaches.exists_runs
    exact ⟨rest, a, run, fun h => absurd h ended⟩

/-- Only programs that have begun ask for anything. -/
theorem Reachable.exists_thread (reached : Reachable rules s) {e : Event} (h : (k, e) ∈ s.history) :
    ∃ t, s.threads[k]? = some t := by
  have hlt : k < s.threads.length := by
    refine Nat.lt_of_not_le fun hk => ?_
    have unseen := reached.reaches.2 k hk
    rw [← mem_eventsOf_iff, unseen] at h
    cases h
  exact ⟨s.threads[k], List.getElem?_eq_getElem hlt⟩

/-- The beginning of a history is the history of an earlier state. -/
theorem Reachable.exists_before (reached : Reachable rules s) {before after : History}
    (h : s.history = before ++ after) : ∃ s', Reachable rules s' ∧ s'.history = before := by
  induction reached generalizing after with
  | initial =>
    obtain ⟨rfl, -⟩ := List.append_eq_nil_iff.mp h.symm
    exact ⟨_, .initial, rfl⟩
  | @step s s' reached next ih =>
    cases next with
    | start begins => exact ih h
    | @ask k α p r next thread x answers =>
      rcases List.eq_nil_or_concat after with rfl | ⟨after, last, rfl⟩
      · rw [List.append_nil] at h
        exact ⟨_, reached.step (.ask thread x answers), h⟩
      · rw [List.concat_eq_append, ← List.append_assoc] at h
        exact ih (List.append_inj' h rfl).1

theorem Reachable.answered (reached : Reachable rules s) {before after : History} {e : Event}
    (h : s.history = before ++ (k, e) :: after) : rules.Answers before e := by
  induction reached generalizing after with
  | initial =>
    obtain ⟨-, hcons⟩ := List.append_eq_nil_iff.mp h.symm
    cases hcons
  | @step s s' reached next ih =>
    cases next with
    | start begins => exact ih h
    | @ask k' α p r next thread x answers =>
      rcases List.eq_nil_or_concat after with rfl | ⟨after, last, rfl⟩
      · obtain ⟨rfl, hlast⟩ := List.append_inj' h rfl
        cases hlast
        exact answers
      · rw [List.concat_eq_append, ← List.cons_append, ← List.append_assoc] at h
        exact ih (List.append_inj' h rfl).1

end SqlMapper.Threads
