import SqlMapper.Proofs.Database.Threads
import SqlMapper.Proofs.Model.TableCreation

/-!
# Calls that create one table

Any number of calls create tables of one name at the same time, on a server that fails nothing but the
creation of a table that is there. Each call lists the tables on a connection of its own, and creates the
table on another one if it was missing. Between the two another call may create it.

* `rules`: the calls, and the answers of such a server.
* `Course`: what a call asks for, and what it returns.
* `mem_iff_of_listed`, `ok_iff_of_executed`: what a call is told, from the history before.
* `calls_return`: one call creates the table; of the others those fail that listed the tables before.
-/

namespace SqlMapper.TableRace

open Interleaving (History eventsOf holder)
open Threads (Reachable)

/-! ## The interleaved system -/

/-- A call that creates a table of the name unless it exists. -/
inductive Call (v : TableReader) (name : String) : {α : Type} → Program α → Prop
  | create {i : Inflector} {j : JoinTable} (named : j.name i = name)
    (understood : v.Understands (j.schema i)) : Call v name (j.createTable i : Task Program Bool).run

/-- The tables after a history. -/
def tablesAfter (v : TableReader) (initial : Finset String) (history : History) : Finset String :=
  history.foldl (fun tables entry => v.after tables entry.2) initial

/-- An answer other than that there is no connection, or that the tables cannot be listed. -/
def Prompt : Event → Prop
  | ⟨.acquire, x⟩ => ∃ conn, x = .ok conn
  | ⟨.listTables _, x⟩ => ∃ names, x = .ok names
  | _ => True

/-- How a pool and a server answer that fail only what cannot be done. -/
structure Faultless (v : TableReader) (initial : Finset String) (history : History) (e : Event) :
    Prop where
  answers : v.Answers (tablesAfter v initial history) e
  prompt : Prompt e
  /-- A statement that can be executed is executed. -/
  executes : ∀ conn sql x, e = ⟨.execute conn sql, x⟩ → ∀ change, v.change? sql = some change →
    change.Possible (tablesAfter v initial history) → ∃ o, x = .ok o
  /-- Nobody else holds the connection. -/
  free : ∀ conn, e.taken? = some conn → holder history conn = none

/-- The calls create a table of the name, on a server that has the tables `initial` at first. -/
def rules (v : TableReader) (initial : Finset String) (name : String) : Threads.Rules where
  Begins := Call v name
  Answers := Faultless v initial

/-- The call has ended and returned the result. -/
def Returns (s : Threads.State) (k : Nat) (r : Except Stop Bool) : Prop :=
  ∃ p, s.threads[k]? = some ⟨Except Stop Bool, p, .done r⟩

/-- A statement was executed. A call sends no statement but the one that creates the table. -/
def Made (e : Event) : Prop := ∃ conn sql o, e = ⟨.execute conn sql, .ok o⟩

/-- The call has listed the tables. -/
def Listed (k : Nat) (history : History) : Prop :=
  ∃ conn x, (k, ⟨.listTables conn, x⟩) ∈ history

/-! ## One call -/

/-- The requests of a listing. -/
def listing (conn : ConnectionId) (names : List String) : List Event :=
  [⟨.acquire, .ok conn⟩, ⟨.listTables conn, .ok names⟩, ⟨.release conn false, ()⟩]

/-- The requests of a statement. -/
def executing (conn : ConnectionId) (sql : String) (x : Except Stop Outcome) : List Event :=
  [⟨.acquire, .ok conn⟩, ⟨.log sql, ()⟩, ⟨.execute conn sql, x⟩, ⟨.release conn false, ()⟩]

/-- What a call asks for, and what it returns. -/
inductive Course (name : String) : List Event → Except Stop Bool → Prop
  | found {conn : ConnectionId} {names : List String} (there : name ∈ names) :
    Course name (listing conn names) (.ok false)
  | tried {conn conn' : ConnectionId} {names : List String} {sql : String} {x : Except Stop Outcome}
    (absent : name ∉ names) :
    Course name (listing conn names ++ executing conn' sql x) (x.map fun _ => true)

section Calls

variable {i : Inflector} {j : JoinTable} {es : List Event} {r : Except Stop Bool}

/-- The only statement of a call creates its table. -/
theorem sql_eq_of_runs (run : (j.createTable i : Task Program Bool).run.Runs es r)
    {conn : ConnectionId} {sql : String} {x : Except Stop Outcome}
    (h : (⟨.execute conn sql, x⟩ : Event) ∈ es) : sql = Dialect.mysql.createTableSql (j.schema i) := by
  have hsent : .statement sql ∈ sent es :=
    List.mem_map.mpr ⟨⟨.statement sql, .outcome x⟩, List.mem_filterMap.mpr ⟨_, h, rfl⟩, rfl⟩
  rcases JoinTable.eq_of_mem_sent run hsent with hlist | hcreate
  · cases hlist
  · exact Sent.statement.inj hcreate

/-- A call that is answered promptly takes one of the two courses. -/
theorem course_of_runs (run : (j.createTable i : Task Program Bool).run.Runs es r)
    (prompt : ∀ e ∈ es, Prompt e) : Course (j.name i) es r := by
  have listed {es : List Event} {y : Except Stop (List String)}
      (run : (Adapter.listTables : Task Program (List String)).run.Runs es y)
      (prompt : ∀ e ∈ es, Prompt e) : ∃ conn names, y = .ok names ∧ es = listing conn names := by
    rcases Adapter.runs_listTables.mp run with ⟨s, rfl, -⟩ | ⟨conn, rfl⟩
    · obtain ⟨c, hc⟩ := prompt ⟨.acquire, .error s⟩ (by simp)
      cases hc
    · obtain ⟨names, rfl⟩ := prompt ⟨.listTables conn, y⟩ (by simp)
      exact ⟨conn, names, rfl, rfl⟩
  rcases JoinTable.runs_createTable.mp run with ⟨s, lists, rfl⟩ | ⟨names, es₁, es₂, lists, rest, rfl⟩
  · obtain ⟨_, _, hy, -⟩ := listed lists prompt
    cases hy
  · obtain ⟨hlist, hrest⟩ := List.forall_mem_append.mp prompt
    obtain ⟨conn, _, ⟨⟩, rfl⟩ := listed lists hlist
    rcases rest with ⟨there, rfl, rfl⟩ | ⟨absent, x, executes, rfl⟩
    · rw [List.append_nil]
      exact .found there
    · rcases Adapter.runs_execute.mp executes with ⟨s, rfl, -⟩ | ⟨c, rfl⟩
      · obtain ⟨c, hc⟩ := hrest ⟨.acquire, .error s⟩ (by simp)
        cases hc
      · exact .tried absent

end Calls

/-! ## What calls are told -/

section States

variable {v : TableReader} {initial : Finset String} {name : String} {s : Threads.State} {k : Nat}
  {before after history : History} {e : Event}

/-- If every statement creates the table, then the table is there after one was executed. -/
theorem mem_tablesAfter_iff (h : ∀ k conn sql x, (k, ⟨.execute conn sql, x⟩) ∈ history →
    v.change? sql = some (.create name)) :
    name ∈ tablesAfter v initial history ↔ name ∈ initial ∨ ∃ entry ∈ history, Made entry.2 := by
  induction history generalizing initial with
  | nil => simp [tablesAfter]
  | cons entry history ih =>
    obtain ⟨k, e⟩ := entry
    have hstep : name ∈ v.after initial e ↔ name ∈ initial ∨ Made e := by
      obtain ⟨r, x⟩ := e
      cases r with
      | execute conn sql =>
        have creates := h k conn sql x List.mem_cons_self
        cases x with
        | error s => simp [TableReader.after, Made]
        | ok o => simp [TableReader.after, Made, creates, TableChange.applyTo]
      | _ => simp [TableReader.after, Made]
    have htail : name ∈ tablesAfter v (v.after initial e) history ↔ _ :=
      ih fun k conn sql x hmem => h k conn sql x (List.mem_cons_of_mem _ hmem)
    show name ∈ tablesAfter v (v.after initial e) history ↔ _
    rw [htail, hstep, or_assoc, List.exists_mem_cons_iff]

theorem executes_create (reached : Reachable (rules v initial name) s) {conn : ConnectionId}
    {sql : String} {x : Except Stop Outcome} (h : (k, ⟨.execute conn sql, x⟩) ∈ s.history) :
    v.change? sql = some (.create name) := by
  obtain ⟨⟨α, p, left⟩, ht⟩ := reached.exists_thread h
  obtain ⟨begins, -⟩ := reached.reaches.1 k _ ht
  obtain ⟨rest, a, run, -⟩ := reached.exists_run ht
  cases begins with
  | create named understood =>
    have hmem := List.mem_append_left rest (Threads.mem_eventsOf_iff.mpr h)
    rw [sql_eq_of_runs run hmem, ← named]
    exact understood.create

/-- The table is there if it was created. -/
theorem mem_iff_of_reachable (reached : Reachable (rules v initial name) s) (absent : name ∉ initial) :
    name ∈ tablesAfter v initial s.history ↔ ∃ entry ∈ s.history, Made entry.2 := by
  rw [mem_tablesAfter_iff fun _ _ _ _ hmem => executes_create reached hmem, or_iff_right absent]

theorem course_of_returns (reached : Reachable (rules v initial name) s) {r : Except Stop Bool}
    (returned : Returns s k r) : Course name (eventsOf k s.history) r := by
  obtain ⟨p, ht⟩ := returned
  obtain ⟨begins, reaches⟩ := reached.reaches.1 k _ ht
  have run : p.Runs (eventsOf k s.history) r := by simpa using reaches.runs ⟨rfl, rfl⟩
  have prompt : ∀ e ∈ eventsOf k s.history, Prompt e := by
    intro e he
    obtain ⟨before, after, h⟩ := List.append_of_mem (Threads.mem_eventsOf_iff.mp he)
    exact (reached.answered h).prompt
  cases begins with
  | create named understood => exact named ▸ course_of_runs run prompt

/-- A call finds the table if a call created it before. -/
theorem mem_iff_of_listed (reached : Reachable (rules v initial name) s) (absent : name ∉ initial)
    {conn : ConnectionId} {names : List String}
    (h : s.history = before ++ (k, ⟨.listTables conn, .ok names⟩) :: after) :
    name ∈ names ↔ ∃ entry ∈ before, Made entry.2 := by
  obtain ⟨-, listed⟩ := (reached.answered h).answers
  obtain ⟨s', reached', rfl⟩ := reached.exists_before h
  rw [← List.mem_toFinset, listed names rfl, mem_iff_of_reachable reached' absent]

/-- A call can create the table if no call created it before. -/
theorem ok_iff_of_executed (reached : Reachable (rules v initial name) s) (absent : name ∉ initial)
    {conn : ConnectionId} {sql : String} {x : Except Stop Outcome}
    (h : s.history = before ++ (k, ⟨.execute conn sql, x⟩) :: after) :
    (∃ o, x = .ok o) ↔ ¬∃ entry ∈ before, Made entry.2 := by
  have faultless := reached.answered h
  have creates := executes_create reached (h ▸ List.mem_append_right _ List.mem_cons_self)
  obtain ⟨s', reached', rfl⟩ := reached.exists_before h
  rw [← mem_iff_of_reachable reached' absent]
  constructor
  · rintro ⟨o, rfl⟩
    exact faultless.answers.2 o rfl _ creates
  · exact faultless.executes conn sql x rfl _ creates

/-- The table is created once. -/
theorem not_made_of_made (reached : Reachable (rules v initial name) s) (absent : name ∉ initial)
    (h : s.history = before ++ (k, e) :: after) (made : Made e) :
    ∀ entry, entry ∈ before ∨ entry ∈ after → ¬Made entry.2 := by
  rintro entry (hmem | hmem) hmade
  · obtain ⟨conn, sql, o, rfl⟩ := made
    exact (ok_iff_of_executed reached absent h).mp ⟨o, rfl⟩ ⟨entry, hmem, hmade⟩
  · obtain ⟨k', e'⟩ := entry
    obtain ⟨conn, sql, o, rfl⟩ := hmade
    obtain ⟨mid, rest, rfl⟩ := List.append_of_mem hmem
    rw [← List.cons_append, ← List.append_assoc] at h
    exact (ok_iff_of_executed reached absent h).mp ⟨o, rfl⟩ ⟨(k, e), by simp, made⟩

theorem eq_of_made (reached : Reachable (rules v initial name) s) (absent : name ∉ initial)
    (h : s.history = before ++ (k, e) :: after) (made : Made e) {entry : Nat × Event}
    (hmem : entry ∈ s.history) (hmade : Made entry.2) : entry = (k, e) := by
  have once := not_made_of_made reached absent h made entry
  rw [h, List.mem_append, List.mem_cons] at hmem
  rcases hmem with hmem | heq | hmem
  · exact absurd hmade (once (.inl hmem))
  · exact heq
  · exact absurd hmade (once (.inr hmem))

/-- If some call has returned, then a call created the table. -/
theorem exists_made (reached : Reachable (rules v initial name) s) (absent : name ∉ initial)
    {r : Except Stop Bool} (returned : Returns s k r) : ∃ entry ∈ s.history, Made entry.2 := by
  have course := course_of_returns reached returned
  generalize hes : eventsOf k s.history = es at course
  cases course with
  | @found conn names there =>
    have hmem : (k, ⟨.listTables conn, .ok names⟩) ∈ s.history := by
      rw [← Threads.mem_eventsOf_iff, hes]
      simp [listing]
    obtain ⟨before, after, h⟩ := List.append_of_mem hmem
    obtain ⟨entry, hentry, made⟩ := (mem_iff_of_listed reached absent h).mp there
    exact ⟨entry, h ▸ List.mem_append_left _ hentry, made⟩
  | @tried conn conn' names sql x absent' =>
    have hmem : (k, ⟨.execute conn' sql, x⟩) ∈ s.history := by
      rw [← Threads.mem_eventsOf_iff, hes]
      simp [executing]
    obtain ⟨before, after, h⟩ := List.append_of_mem hmem
    -- the creation fails only if there was one before
    by_cases hbefore : ∃ entry ∈ before, Made entry.2
    · obtain ⟨entry, hentry, made⟩ := hbefore
      exact ⟨entry, h ▸ List.mem_append_left _ hentry, made⟩
    · obtain ⟨o, rfl⟩ := (ok_iff_of_executed reached absent h).mpr hbefore
      exact ⟨_, hmem, conn', sql, o, rfl⟩

/-- What a call has returned, by when it listed the tables, if the call `w` created the table after the
    history `before`. -/
structure ReturnsBy (w : Nat) (before : History) (k : Nat) (r : Except Stop Bool) : Prop where
  creator : k = w → r = .ok true
  early : k ≠ w → Listed k before → ∃ e, r = .error (.failed e)
  late : k ≠ w → ¬Listed k before → r = .ok false

/-- A call that found the table listed the tables after it was created. -/
theorem returnsBy_of_found (reached : Reachable (rules v initial name) s) (absent : name ∉ initial)
    {w : Nat} (h : s.history = before ++ (w, e) :: after) (made : Made e) {conn : ConnectionId}
    {names : List String} (there : name ∈ names) (hes : eventsOf k s.history = listing conn names) :
    ReturnsBy w before k (.ok false) where
  creator := by
    rintro rfl
    obtain ⟨conn', sql, o, rfl⟩ := made
    have hmem : (⟨.execute conn' sql, .ok o⟩ : Event) ∈ eventsOf k s.history :=
      Threads.mem_eventsOf_iff.mpr (h ▸ List.mem_append_right _ List.mem_cons_self)
    rw [hes] at hmem
    simp [listing] at hmem
  early := by
    rintro - ⟨conn', x, hlisted⟩
    have hmem : (⟨.listTables conn', x⟩ : Event) ∈ eventsOf k s.history :=
      Threads.mem_eventsOf_iff.mpr (h ▸ List.mem_append_left _ hlisted)
    rw [hes] at hmem
    obtain ⟨rfl, rfl⟩ : conn' = conn ∧ x = .ok names := by simpa [listing] using hmem
    -- what it found was created before it listed the tables, and so a second time
    obtain ⟨front, mid, rfl⟩ := List.append_of_mem hlisted
    have split := h
    rw [List.append_assoc, List.cons_append] at split
    obtain ⟨entry, hentry, hmade⟩ := (mem_iff_of_listed reached absent split).mp there
    exact absurd hmade
      (not_made_of_made reached absent h made entry (.inl (List.mem_append_left _ hentry)))
  late := fun _ _ => rfl

/-- A call that tried to create the table listed the tables before it was created. -/
theorem returnsBy_of_tried (reached : Reachable (rules v initial name) s) (absent : name ∉ initial)
    {w : Nat} (h : s.history = before ++ (w, e) :: after) (made : Made e) {conn conn' : ConnectionId}
    {names : List String} {sql : String} {x : Except Stop Outcome} (absent' : name ∉ names)
    (hes : eventsOf k s.history = listing conn names ++ executing conn' sql x) :
    ReturnsBy w before k (x.map fun _ => true) where
  creator := by
    rintro rfl
    obtain ⟨c, sql', o, rfl⟩ := made
    have hmem : (⟨.execute c sql', .ok o⟩ : Event) ∈ eventsOf k s.history :=
      Threads.mem_eventsOf_iff.mpr (h ▸ List.mem_append_right _ List.mem_cons_self)
    rw [hes] at hmem
    obtain ⟨-, rfl⟩ : _ ∧ .ok o = x := by simpa [listing, executing] using hmem
    rfl
  early := by
    intro hne _
    have hmem : (k, ⟨.execute conn' sql, x⟩) ∈ s.history := by
      rw [← Threads.mem_eventsOf_iff, hes]
      simp [executing]
    cases x with
    | error s' =>
      obtain ⟨front, back, split⟩ := List.append_of_mem hmem
      obtain ⟨err, rfl⟩ := (reached.answered split).answers.1 s' rfl
      exact ⟨err, rfl⟩
    | ok o =>
      -- then this call created the table, and there is only one that did
      have heq := eq_of_made reached absent h made hmem ⟨conn', sql, o, rfl⟩
      exact absurd (congrArg Prod.fst heq) hne
  late := by
    intro hne unlisted
    have hmem : (k, ⟨.listTables conn, .ok names⟩) ∈ s.history := by
      rw [← Threads.mem_eventsOf_iff, hes]
      simp [listing]
    rw [h, List.mem_append, List.mem_cons] at hmem
    rcases hmem with hmem | heq | hmem
    · exact absurd ⟨conn, _, hmem⟩ unlisted
    · exact absurd (congrArg Prod.fst heq) hne
    · obtain ⟨mid, back, rfl⟩ := List.append_of_mem hmem
      rw [← List.cons_append, ← List.append_assoc] at h
      exact absurd ((mem_iff_of_listed reached absent h).mpr ⟨(w, e), by simp, made⟩) absent'

theorem returnsBy_of_returns (reached : Reachable (rules v initial name) s) (absent : name ∉ initial)
    {w : Nat} (h : s.history = before ++ (w, e) :: after) (made : Made e) {r : Except Stop Bool}
    (returned : Returns s k r) : ReturnsBy w before k r := by
  have course := course_of_returns reached returned
  generalize hes : eventsOf k s.history = es at course
  cases course with
  | found there => exact returnsBy_of_found reached absent h made there hes
  | tried absent' => exact returnsBy_of_tried reached absent h made absent' hes

theorem returns_of_ended (reached : Reachable (rules v initial name) s) {t : Threads.Thread}
    (ht : s.threads[k]? = some t) (ended : t.Ended) : ∃ r, Returns s k r := by
  obtain ⟨begins, -⟩ := reached.reaches.1 k t ht
  obtain ⟨α, p, left⟩ := t
  cases begins with
  | create =>
    obtain ⟨(r : Except Stop Bool), (rfl : left = .done r)⟩ := ended
    exact ⟨r, _, ht⟩

/-- **One call creates the table**, and returns true. Of the other calls those fail that listed the tables
    before the table was created, and the later ones return false. So no call fails exactly if all others
    list the tables after the table was created. -/
theorem calls_return (reached : Reachable (rules v initial name) s) (absent : name ∉ initial)
    {r : Except Stop Bool} (returned : Returns s k r) :
    ∃ before w made after, s.history = before ++ (w, made) :: after ∧ Made made ∧
      (∀ k r, Returns s k r → ReturnsBy w before k r) ∧
      ((∃ w', ∀ k < s.threads.length, Returns s k (.ok (decide (k = w')))) ↔
        (∀ t ∈ s.threads, t.Ended) ∧ ∀ k, k ≠ w → ¬Listed k before) := by
  obtain ⟨⟨w, made⟩, hmem, hmade⟩ := exists_made reached absent returned
  obtain ⟨before, after, h⟩ := List.append_of_mem hmem
  have results : ∀ k r, Returns s k r → ReturnsBy w before k r :=
    fun k r returned => returnsBy_of_returns reached absent h hmade returned
  have lt_of_mem {k : Nat} {e : Event} (hmem : (k, e) ∈ s.history) : k < s.threads.length := by
    obtain ⟨t, ht⟩ := reached.exists_thread hmem
    exact (List.getElem?_eq_some_iff.mp ht).1
  refine ⟨before, w, made, after, h, hmade, results, ?_, ?_⟩
  · rintro ⟨w', all⟩
    obtain rfl : w = w' := by
      have hw := (results w _ (all w (lt_of_mem hmem))).creator rfl
      simpa using hw
    refine ⟨?_, ?_⟩
    · intro t ht
      obtain ⟨k, hk, rfl⟩ := List.mem_iff_getElem.mp ht
      obtain ⟨p, hp⟩ := all k hk
      rw [List.getElem?_eq_getElem hk] at hp
      rw [Option.some.inj hp]
      exact ⟨_, rfl⟩
    · rintro k hne ⟨conn, x, hlisted⟩
      have hk := lt_of_mem (h ▸ List.mem_append_left _ hlisted)
      obtain ⟨e, he⟩ := (results k _ (all k hk)).early hne ⟨conn, x, hlisted⟩
      cases he
  · rintro ⟨ended, unlisted⟩
    refine ⟨w, fun k hk => ?_⟩
    obtain ⟨r, returned⟩ := returns_of_ended reached (List.getElem?_eq_getElem hk)
      (ended _ (List.getElem_mem hk))
    by_cases hkw : k = w
    · obtain rfl := (results k r returned).creator hkw
      simpa [hkw] using returned
    · obtain rfl := (results k r returned).late hkw (unlisted k hkw)
      simpa [hkw] using returned

end States

/-! ## Two calls at the same time -/

section Answers

variable {v : TableReader} {initial : Finset String} {history : History} {conn : ConnectionId}

theorem faultless_acquire (free : holder history conn = none) :
    Faultless v initial history ⟨.acquire, .ok conn⟩ where
  answers := TableReader.answered_ok
  prompt := ⟨conn, rfl⟩
  executes := by rintro _ _ _ ⟨⟩
  free := by
    rintro _ ⟨⟩
    exact free

theorem faultless_listTables {names : List String}
    (listed : names.toFinset = tablesAfter v initial history) :
    Faultless v initial history ⟨.listTables conn, .ok names⟩ where
  answers := by
    refine ⟨TableReader.answered_ok, ?_⟩
    rintro _ ⟨⟩
    exact listed
  prompt := ⟨names, rfl⟩
  executes := by rintro _ _ _ ⟨⟩
  free := by rintro _ ⟨⟩

theorem faultless_release {discard : Bool} :
    Faultless v initial history ⟨.release conn discard, ()⟩ where
  answers := trivial
  prompt := trivial
  executes := by rintro _ _ _ ⟨⟩
  free := by rintro _ ⟨⟩

theorem faultless_log {sql : String} : Faultless v initial history ⟨.log sql, ()⟩ where
  answers := trivial
  prompt := trivial
  executes := by rintro _ _ _ ⟨⟩
  free := by rintro _ ⟨⟩

variable {sql name : String} (creates : v.change? sql = some (.create name))

include creates

theorem faultless_execute_ok {o : Outcome} (absent : name ∉ tablesAfter v initial history) :
    Faultless v initial history ⟨.execute conn sql, .ok o⟩ where
  answers := by
    refine ⟨TableReader.answered_ok, ?_⟩
    rintro _ - change h
    obtain rfl := Option.some.inj (creates.symm.trans h)
    exact absent
  prompt := trivial
  executes := by
    rintro _ _ _ ⟨⟩ _ _ _
    exact ⟨o, rfl⟩
  free := by rintro _ ⟨⟩

/-- A table that has just been created cannot be created again. -/
theorem faultless_execute_again {k : Nat} {o : Outcome} {conn' : ConnectionId} {e : Error} :
    Faultless v initial (history ++ [(k, ⟨.execute conn' sql, .ok o⟩)])
      ⟨.execute conn sql, .error (.failed e)⟩ where
  answers := ⟨TableReader.answered_failed, by rintro o ⟨⟩⟩
  prompt := trivial
  executes := by
    rintro _ _ _ ⟨⟩ change h possible
    obtain rfl := Option.some.inj (creates.symm.trans h)
    refine absurd ?_ possible
    rw [tablesAfter, List.foldl_append]
    show name ∈ (v.change? sql).elim _ _
    rw [creates]
    exact Finset.mem_insert_self _ _
  free := by rintro _ ⟨⟩

end Answers

/-- What a server says of a table that is there. -/
def alreadyExists : Error :=
  .database "Table 'comments_posts' already exists" (some "42S01") "Check the statement"

/-- The statement of both calls. -/
def creation : String := Dialect.mysql.createTableSql (JoinTable.commenting.schema .english)

/-- Two calls list the tables before either of them creates the table. -/
def bothListed : History :=
  [(0, ⟨.acquire, .ok 0⟩), (1, ⟨.acquire, .ok 1⟩), (0, ⟨.listTables 0, .ok []⟩),
    (1, ⟨.listTables 1, .ok []⟩), (0, ⟨.release 0 false, ()⟩), (1, ⟨.release 1 false, ()⟩),
    (0, ⟨.acquire, .ok 0⟩), (1, ⟨.acquire, .ok 1⟩), (0, ⟨.log creation, ()⟩),
    (1, ⟨.log creation, ()⟩)]

/-- One of them creates the table, and the other one fails. -/
def race : Threads.State where
  threads := [
    ⟨Except Stop Bool, (JoinTable.commenting.createTable .english : Task Program Bool).run,
      .done (.ok true)⟩,
    ⟨Except Stop Bool, (JoinTable.commenting.createTable .english : Task Program Bool).run,
      .done (.error (.failed alreadyExists))⟩]
  history := bothListed ++ [(0, ⟨.execute 0 creation, .ok ⟨0, none⟩⟩),
    (1, ⟨.execute 1 creation, .error (.failed alreadyExists)⟩), (0, ⟨.release 0 false, ()⟩),
    (1, ⟨.release 1 false, ()⟩)]

theorem change?_creation :
    TableReader.mysql.change? creation = some (.create "comments_posts") := by
  rw [← JoinTable.name_commenting]
  exact JoinTable.understands_commenting.create

/-- The states of calls on a server without tables. -/
abbrev Reached : Threads.State → Prop := Reachable (rules .mysql ∅ "comments_posts")

theorem reachable_race : Reached race := by
  have call := Call.create JoinTable.name_commenting JoinTable.understands_commenting
  have s₁ : Reached _ := Reachable.initial.step (.start call)
  have s₂ := s₁.step (.start call)
  have s₃ := s₂.step (.ask (k := 0) (r := .acquire) rfl (.ok 0) (faultless_acquire rfl))
  have s₄ := s₃.step (.ask (k := 1) (r := .acquire) rfl (.ok 1) (faultless_acquire rfl))
  have s₅ := s₄.step (.ask (k := 0) (r := .listTables 0) rfl (.ok []) (faultless_listTables rfl))
  have s₆ := s₅.step (.ask (k := 1) (r := .listTables 1) rfl (.ok []) (faultless_listTables rfl))
  have s₇ := s₆.step (.ask (k := 0) (r := .release 0 false) rfl () faultless_release)
  have s₈ := s₇.step (.ask (k := 1) (r := .release 1 false) rfl () faultless_release)
  have s₉ := s₈.step (.ask (k := 0) (r := .acquire) rfl (.ok 0) (faultless_acquire rfl))
  have s₁₀ := s₉.step (.ask (k := 1) (r := .acquire) rfl (.ok 1) (faultless_acquire rfl))
  have s₁₁ := s₁₀.step (.ask (k := 0) (r := .log creation) rfl () faultless_log)
  have s₁₂ : Reached ⟨_, bothListed⟩ := s₁₁.step (.ask (k := 1) (r := .log creation) rfl () faultless_log)
  have s₁₃ := s₁₂.step (.ask (k := 0) (r := .execute 0 creation) rfl (.ok ⟨0, none⟩)
    (faultless_execute_ok change?_creation (Finset.notMem_empty _)))
  have s₁₄ := s₁₃.step (.ask (k := 1) (r := .execute 1 creation) rfl (.error (.failed alreadyExists))
    (faultless_execute_again change?_creation))
  have s₁₅ := s₁₄.step (.ask (k := 0) (r := .release 0 false) rfl () faultless_release)
  have s₁₆ := s₁₅.step (.ask (k := 1) (r := .release 1 false) rfl () faultless_release)
  exact s₁₆

theorem returns_race_first : Returns race 0 (.ok true) := ⟨_, rfl⟩

theorem returns_race_second : Returns race 1 (.error (.failed alreadyExists)) := ⟨_, rfl⟩

/-- A call fails although the table is there when it returns, and another call has returned true. -/
theorem call_fails_beside_creation :
    Reached race ∧ (∀ t ∈ race.threads, t.Ended) ∧ Returns race 0 (.ok true) ∧
      Returns race 1 (.error (.failed alreadyExists)) := by
  refine ⟨reachable_race, ?_, returns_race_first, returns_race_second⟩
  simp only [race, List.forall_mem_cons, List.not_mem_nil, false_implies, implies_true, and_true]
  exact ⟨⟨_, rfl⟩, ⟨_, rfl⟩⟩

/-- Both results are those of calls that listed the tables before the table was created. -/
theorem calls_return_race :
    Reached race ∧ "comments_posts" ∉ (∅ : Finset String) ∧ Returns race 0 (.ok true) ∧
      ∃ before w made after, race.history = before ++ (w, made) :: after ∧ Made made ∧
        ReturnsBy w before 0 (.ok true) ∧
        ReturnsBy w before 1 (.error (.failed alreadyExists)) := by
  obtain ⟨before, w, made, after, h, hmade, results, -⟩ :=
    calls_return reachable_race (Finset.notMem_empty _) returns_race_first
  exact ⟨reachable_race, Finset.notMem_empty _, returns_race_first, before, w, made, after, h, hmade,
    results 0 _ returns_race_first, results 1 _ returns_race_second⟩

end SqlMapper.TableRace
