import SqlMapper.Model.JoinTable
import SqlMapper.Proofs.Database.Tables

/-!
# The table of a join table

Creating the table of a join table, and creating it anew, on a server whose requests may fail. Each takes
up to three requests, and whichever of them fails, no other table is touched.

* `runs_createTable`, `eq_of_mem_sent`: what a call asks for, whatever the answers.
* `Creation`, `Recreation`: what a call may send, how it may end, and the tables that it leaves.
* `performs_createTable_iff`, `performs_recreateTable_iff`: these are all its courses.
* `calls_settle_table`: after a call that succeeds the table is there, and it is not created again.
-/

namespace SqlMapper.JoinTable

open TableReader (Failing performs_pure)

/-! ## Specification -/

/-- The courses of a call that creates a table unless it exists. -/
inductive Creation (create : Sent) (name : String) (tables : Finset String) :
    List Sent → Except Stop Bool → Finset String → Prop
  /-- The tables cannot be listed. -/
  | unlisted {ss : List Sent} {r : Except Stop Bool} (failing : Failing .tableList ss r) :
    Creation create name tables ss r tables
  | present (there : name ∈ tables) : Creation create name tables [.tableList] (.ok false) tables
  | refused {ss : List Sent} {r : Except Stop Bool} (absent : name ∉ tables)
    (failing : Failing create ss r) : Creation create name tables (.tableList :: ss) r tables
  | created (absent : name ∉ tables) :
    Creation create name tables [.tableList, create] (.ok true) (insert name tables)

/-- The courses of a call that creates a table anew. -/
inductive Recreation (drop create : Sent) (name : String) (tables : Finset String) :
    List Sent → Except Stop Bool → Finset String → Prop
  /-- The tables cannot be listed. -/
  | unlisted {ss : List Sent} {r : Except Stop Bool} (failing : Failing .tableList ss r) :
    Recreation drop create name tables ss r tables
  | refused {ss : List Sent} {r : Except Stop Bool} (absent : name ∉ tables)
    (failing : Failing create ss r) : Recreation drop create name tables (.tableList :: ss) r tables
  | created (absent : name ∉ tables) :
    Recreation drop create name tables [.tableList, create] (.ok true) (insert name tables)
  | undropped {ss : List Sent} {r : Except Stop Bool} (there : name ∈ tables)
    (failing : Failing drop ss r) : Recreation drop create name tables (.tableList :: ss) r tables
  /-- The table that was there is gone, and the new one cannot be created. -/
  | lost {ss : List Sent} {r : Except Stop Bool} (there : name ∈ tables)
    (failing : Failing create ss r) :
    Recreation drop create name tables (.tableList :: drop :: ss) r (tables.erase name)
  | replaced (there : name ∈ tables) :
    Recreation drop create name tables [.tableList, drop, create] (.ok true) tables

section Courses

variable {drop create : Sent} {name other : String} {tables finish : Finset String} {ss : List Sent}
  {r : Except Stop Bool}

theorem Creation.mem_iff_of_ne (h : Creation create name tables ss r finish) (hne : other ≠ name) :
    other ∈ finish ↔ other ∈ tables := by
  cases h with
  | unlisted | present | refused => rfl
  | created => rw [Finset.mem_insert, or_iff_right hne]

theorem Recreation.mem_iff_of_ne (h : Recreation drop create name tables ss r finish)
    (hne : other ≠ name) : other ∈ finish ↔ other ∈ tables := by
  cases h with
  | unlisted | refused | undropped | replaced => rfl
  | created => rw [Finset.mem_insert, or_iff_right hne]
  | lost => rw [Finset.mem_erase, and_iff_right hne]

theorem Creation.mem_of_ok {made : Bool} (h : Creation create name tables ss (.ok made) finish) :
    name ∈ finish := by
  cases h with
  | unlisted failing | refused _ failing => obtain ⟨-, e, ⟨⟩⟩ := failing
  | present there => exact there
  | created => exact Finset.mem_insert_self name tables

theorem Recreation.mem_of_ok {made : Bool}
    (h : Recreation drop create name tables ss (.ok made) finish) : name ∈ finish := by
  cases h with
  | unlisted failing | refused _ failing | undropped _ failing | lost _ failing =>
    obtain ⟨-, e, ⟨⟩⟩ := failing
  | created => exact Finset.mem_insert_self name tables
  | replaced there => exact there

/-- A table that is there is not created again. -/
theorem creation_iff_of_mem (there : name ∈ tables) :
    Creation create name tables ss r finish ↔ finish = tables ∧
      (Failing .tableList ss r ∨ ss = [.tableList] ∧ r = .ok false) := by
  constructor
  · rintro (failing | - | ⟨absent, -⟩ | absent)
    · exact ⟨rfl, .inl failing⟩
    · exact ⟨rfl, .inr ⟨rfl, rfl⟩⟩
    · exact absurd there absent
    · exact absurd there absent
  · rintro ⟨rfl, failing | ⟨rfl, rfl⟩⟩
    · exact .unlisted failing
    · exact .present there

end Courses

section Calls

variable {i : Inflector} {j : JoinTable} {v : TableReader} {start finish : Finset String}
  {ss : List Sent} {r : Except Stop Bool}

/-- The statement that creates the table. -/
def creating (i : Inflector) (j : JoinTable) : Sent :=
  .statement (Dialect.mysql.createTableSql (j.schema i))

/-- The statement that drops the table. -/
def dropping (i : Inflector) (j : JoinTable) : Sent :=
  .statement (Dialect.mysql.dropTableSql (j.name i))

/-! ## What a call asks for -/

section Runs

variable {es : List Event}

/-- A call lists the tables, and creates the table if it is missing. -/
theorem runs_createTable :
    (j.createTable i : Task Program Bool).run.Runs es r ↔
      (∃ s, (Adapter.listTables : Task Program (List String)).run.Runs es (.error s) ∧
        r = .error s) ∨
      ∃ names es₁ es₂, (Adapter.listTables : Task Program (List String)).run.Runs es₁ (.ok names) ∧
        (j.name i ∈ names ∧ es₂ = [] ∧ r = .ok false ∨
          j.name i ∉ names ∧ ∃ x, (Adapter.execute (Dialect.mysql.createTableSql (j.schema i)) :
            Task Program Outcome).run.Runs es₂ x ∧ r = x.map fun _ => true) ∧ es = es₁ ++ es₂ := by
  have unfolded : (j.createTable i : Task Program Bool) = do
      let names ← Adapter.listTables
      if names.contains (j.name i) then return false
      let _ ← Adapter.execute (Dialect.mysql.createTableSql (j.schema i))
      return true := by
    unfold createTable exists? Adapter.tableExists Adapter.createTable
    simp only [bind_assoc, pure_bind]
    rfl
  rw [unfolded, Task.runs_bind]
  refine or_congr Iff.rfl (exists_congr fun names => exists_congr fun es₁ => exists_congr fun es₂ =>
    and_congr Iff.rfl (and_congr ?_ Iff.rfl))
  by_cases there : j.name i ∈ names
  · rw [if_pos (List.contains_iff_mem.mpr there)]
    simp only [Task.runs_pure, there, not_true_eq_false, true_and, false_and, or_false]
  · rw [if_neg (by simpa using there), Task.runs_map]
    simp only [there, not_false_eq_true, true_and, false_and, false_or]

/-- Whatever the answers, a call sends nothing but the listing and the definition of the table. -/
theorem eq_of_mem_sent (run : (j.createTable i : Task Program Bool).run.Runs es r) {x : Sent}
    (h : x ∈ sent es) : x = .tableList ∨ x = creating i j := by
  have lists {es : List Event} {y : Except Stop (List String)}
      (run : (Adapter.listTables : Task Program (List String)).run.Runs es y) (h : x ∈ sent es) :
      x = .tableList := by
    rcases Adapter.runs_listTables.mp run with ⟨s, rfl, -⟩ | ⟨conn, rfl⟩
    · cases h
    · exact List.mem_singleton.mp h
  have creates {es : List Event} {y : Except Stop Outcome}
      (run : (Adapter.execute (Dialect.mysql.createTableSql (j.schema i)) :
        Task Program Outcome).run.Runs es y) (h : x ∈ sent es) : x = creating i j := by
    rcases Adapter.runs_execute.mp run with ⟨s, rfl, -⟩ | ⟨conn, rfl⟩
    · cases h
    · exact List.mem_singleton.mp h
  rcases runs_createTable.mp run with ⟨s, listing, -⟩ | ⟨names, es₁, es₂, listing, rest, rfl⟩
  · exact .inl (lists listing h)
  · rw [sent_append, List.mem_append] at h
    rcases h with h | h
    · exact .inl (lists listing h)
    · rcases rest with ⟨-, rfl, -⟩ | ⟨-, y, executing, -⟩
      · cases h
      · exact .inr (creates executing h)

end Runs

/-! ## The courses of a call -/

theorem requests_exists :
    v.Requests (j.exists? i) start .tableList
      fun found finish => found = decide (j.name i ∈ start) ∧ finish = start :=
  TableReader.requests_tableExists

theorem performs_exists_iff :
    v.Performs (j.exists? i) start ss r finish ↔ finish = start ∧
      (Failing .tableList ss r ∨ ss = [.tableList] ∧ r = .ok (decide (j.name i ∈ start))) := by
  rw [requests_exists ss r finish]
  constructor
  · rintro (⟨failing, rfl⟩ | ⟨rfl, _, rfl, rfl, rfl⟩)
    · exact ⟨rfl, .inl failing⟩
    · exact ⟨rfl, .inr ⟨rfl, rfl⟩⟩
  · rintro ⟨rfl, failing | ⟨rfl, rfl⟩⟩
    · exact .inl ⟨failing, rfl⟩
    · exact .inr ⟨rfl, _, rfl, rfl, rfl⟩

/-- Both calls begin by asking whether the table exists. -/
theorem performs_asking_iff {f : Bool → Task Program Bool} :
    v.Performs (j.exists? i >>= f) start ss r finish ↔
      (Failing .tableList ss r ∧ finish = start) ∨
        ∃ ss', v.Performs (f (decide (j.name i ∈ start))) start ss' r finish ∧
          ss = .tableList :: ss' := by
  rw [requests_exists.bind]
  refine or_congr Iff.rfl ?_
  constructor
  · rintro ⟨_, _, ss', ⟨rfl, rfl⟩, rest, rfl⟩
    exact ⟨ss', rest, rfl⟩
  · rintro ⟨ss', rest, rfl⟩
    exact ⟨_, start, ss', ⟨rfl, rfl⟩, rest, rfl⟩

/-- Both calls may end with the creation. -/
theorem performs_making_iff (h : v.Understands (j.schema i)) :
    v.Performs (do
      Adapter.createTable (j.schema i)
      return true) start ss r finish ↔
      (Failing (creating i j) ss r ∧ finish = start) ∨
        ss = [creating i j] ∧ r = .ok true ∧ j.name i ∉ start ∧ finish = insert (j.name i) start := by
  rw [(TableReader.requests_createTable h).map (fun _ => true) ss r finish]
  refine or_congr Iff.rfl (and_congr Iff.rfl ?_)
  constructor
  · rintro ⟨_, rfl, _, ⟨absent, rfl⟩, rfl⟩
    exact ⟨rfl, absent, rfl⟩
  · rintro ⟨rfl, absent, rfl⟩
    exact ⟨true, rfl, (), ⟨absent, rfl⟩, rfl⟩

/-- A table that is there is dropped before it is created. -/
theorem performs_replacing_iff (h : v.Understands (j.schema i)) (there : j.name i ∈ start) :
    v.Performs (do
      Adapter.dropTable (j.name i)
      Adapter.createTable (j.schema i)
      return true) start ss r finish ↔
      (Failing (dropping i j) ss r ∧ finish = start) ∨
        (∃ ss', Failing (creating i j) ss' r ∧ ss = dropping i j :: ss' ∧
          finish = start.erase (j.name i)) ∨
        ss = [dropping i j, creating i j] ∧ r = .ok true ∧ finish = start := by
  have anew : insert (j.name i) (start.erase (j.name i)) = start := Finset.insert_erase there
  have absent : j.name i ∉ start.erase (j.name i) := start.notMem_erase _
  have drops : v.Requests (Adapter.dropTable (j.name i)) start (dropping i j)
      fun _ finish => j.name i ∈ start ∧ finish = start.erase (j.name i) :=
    TableReader.requests_dropTable (t := j.schema i) h
  rw [drops.bind]
  refine or_congr Iff.rfl ?_
  constructor
  · rintro ⟨_, _, ss', ⟨-, rfl⟩, rest, rfl⟩
    rcases (performs_making_iff h).mp rest with ⟨failing, rfl⟩ | ⟨rfl, rfl, -, rfl⟩
    · exact .inl ⟨ss', failing, rfl, rfl⟩
    · exact .inr ⟨rfl, rfl, anew⟩
  · rintro (⟨ss', failing, rfl, rfl⟩ | ⟨rfl, rfl, rfl⟩)
    · exact ⟨(), _, ss', ⟨there, rfl⟩, (performs_making_iff h).mpr (.inl ⟨failing, rfl⟩), rfl⟩
    · have making := (performs_making_iff h).mpr (.inr ⟨rfl, rfl, absent, anew.symm⟩)
      exact ⟨(), _, [creating i j], ⟨there, rfl⟩, making, rfl⟩

theorem performs_createTable_iff (h : v.Understands (j.schema i)) :
    v.Performs (j.createTable i) start ss r finish ↔
      Creation (creating i j) (j.name i) start ss r finish := by
  unfold createTable
  rw [performs_asking_iff]
  by_cases there : j.name i ∈ start
  · rw [decide_eq_true there, if_pos rfl, creation_iff_of_mem there]
    simp only [performs_pure]
    constructor
    · rintro (⟨failing, rfl⟩ | ⟨ss', ⟨rfl, rfl, rfl⟩, rfl⟩)
      · exact ⟨rfl, .inl failing⟩
      · exact ⟨rfl, .inr ⟨rfl, rfl⟩⟩
    · rintro ⟨rfl, failing | ⟨rfl, rfl⟩⟩
      · exact .inl ⟨failing, rfl⟩
      · exact .inr ⟨[], ⟨rfl, rfl, rfl⟩, rfl⟩
  · rw [decide_eq_false there, if_neg Bool.false_ne_true]
    simp only [performs_making_iff h]
    constructor
    · rintro (⟨failing, rfl⟩ | ⟨ss', ⟨failing, rfl⟩ | ⟨rfl, rfl, -, rfl⟩, rfl⟩)
      · exact .unlisted failing
      · exact .refused there failing
      · exact .created there
    · rintro (failing | present | ⟨-, failing⟩ | -)
      · exact .inl ⟨failing, rfl⟩
      · exact absurd present there
      · exact .inr ⟨_, .inl ⟨failing, rfl⟩, rfl⟩
      · exact .inr ⟨_, .inr ⟨rfl, rfl, there, rfl⟩, rfl⟩

theorem performs_recreateTable_iff (h : v.Understands (j.schema i)) :
    v.Performs (j.recreateTable i) start ss r finish ↔
      Recreation (dropping i j) (creating i j) (j.name i) start ss r finish := by
  unfold recreateTable
  rw [performs_asking_iff]
  by_cases there : j.name i ∈ start
  · rw [decide_eq_true there, if_pos rfl]
    simp only [performs_replacing_iff h there]
    constructor
    · rintro (⟨failing, rfl⟩ |
        ⟨_, ⟨failing, rfl⟩ | ⟨ss', failing, rfl, rfl⟩ | ⟨rfl, rfl, rfl⟩, rfl⟩)
      · exact .unlisted failing
      · exact .undropped there failing
      · exact .lost there failing
      · exact .replaced there
    · rintro (failing | ⟨absent, -⟩ | absent | ⟨-, failing⟩ | ⟨-, failing⟩ | -)
      · exact .inl ⟨failing, rfl⟩
      · exact absurd there absent
      · exact absurd there absent
      · exact .inr ⟨_, .inl ⟨failing, rfl⟩, rfl⟩
      · exact .inr ⟨_, .inr (.inl ⟨_, failing, rfl, rfl⟩), rfl⟩
      · exact .inr ⟨_, .inr (.inr ⟨rfl, rfl, rfl⟩), rfl⟩
  · rw [decide_eq_false there]
    show (_ ∨ ∃ ss', v.Performs (do
      Adapter.createTable (j.schema i)
      return true) start ss' r finish ∧ _) ↔ _
    simp only [performs_making_iff h]
    constructor
    · rintro (⟨failing, rfl⟩ | ⟨ss', ⟨failing, rfl⟩ | ⟨rfl, rfl, -, rfl⟩, rfl⟩)
      · exact .unlisted failing
      · exact .refused there failing
      · exact .created there
    · rintro (failing | ⟨-, failing⟩ | - | ⟨present, -⟩ | ⟨present, -⟩ | present)
      · exact .inl ⟨failing, rfl⟩
      · exact .inr ⟨_, .inl ⟨failing, rfl⟩, rfl⟩
      · exact .inr ⟨_, .inr ⟨rfl, rfl, there, rfl⟩, rfl⟩
      · exact absurd present there
      · exact absurd present there
      · exact absurd present there

/-- **A call settles the table.** The courses of the two calls are those of `Creation` and `Recreation`.
    Neither touches another table, and after one that succeeds the table is found, and not created again,
    unless the tables cannot be listed. -/
theorem calls_settle_table (h : v.Understands (j.schema i)) :
    (v.Performs (j.createTable i) start ss r finish ↔
        Creation (creating i j) (j.name i) start ss r finish) ∧
      (v.Performs (j.recreateTable i) start ss r finish ↔
        Recreation (dropping i j) (creating i j) (j.name i) start ss r finish) ∧
      (v.Performs (j.createTable i) start ss r finish ∨
          v.Performs (j.recreateTable i) start ss r finish →
        (∀ other, other ≠ j.name i → (other ∈ finish ↔ other ∈ start)) ∧
          ∀ made, r = .ok made → ∀ ss' r' finish',
            (v.Performs (j.exists? i) finish ss' r' finish' ↔ finish' = finish ∧
              (Failing .tableList ss' r' ∨ ss' = [.tableList] ∧ r' = .ok true)) ∧
            (v.Performs (j.createTable i) finish ss' r' finish' ↔ finish' = finish ∧
              (Failing .tableList ss' r' ∨ ss' = [.tableList] ∧ r' = .ok false))) := by
  refine ⟨performs_createTable_iff h, performs_recreateTable_iff h, ?_⟩
  rw [performs_createTable_iff h, performs_recreateTable_iff h]
  intro course
  refine ⟨fun other hne => course.elim (·.mem_iff_of_ne hne) (·.mem_iff_of_ne hne), ?_⟩
  rintro made rfl ss' r' finish'
  have there : j.name i ∈ finish := course.elim (·.mem_of_ok) (·.mem_of_ok)
  rw [performs_exists_iff, performs_createTable_iff h, creation_iff_of_mem there,
    decide_eq_true there]
  exact ⟨Iff.rfl, Iff.rfl⟩

end Calls

/-- The join table of posts and comments. -/
def commenting : JoinTable :=
  .between (.ofTable "Post" "posts") (.ofTable "Comment" "comments") ⟨none, none⟩

theorem name_commenting : commenting.name .english = "comments_posts" := by decide +kernel

theorem understands_commenting : TableReader.mysql.Understands (commenting.schema .english) :=
  TableReader.mysql_understands (by decide +kernel) (by decide +kernel)

/-- The old table is dropped and the new one cannot be created; then it is created, and not again. -/
theorem calls_settle_table_commenting :
    TableReader.mysql.Performs (commenting.recreateTable .english) {"comments_posts", "users"}
        [.tableList, dropping .english commenting, creating .english commenting]
        (.error (.failed (.internal "disk full"))) {"users"} ∧
      TableReader.mysql.Performs (commenting.createTable .english) {"users"}
        [.tableList, creating .english commenting] (.ok true) {"comments_posts", "users"} ∧
      TableReader.mysql.Performs (commenting.createTable .english) {"comments_posts", "users"}
        [.tableList] (.ok false) {"comments_posts", "users"} := by
  have lost : Recreation (dropping .english commenting) (creating .english commenting)
      (commenting.name .english) {"comments_posts", "users"}
      [.tableList, dropping .english commenting, creating .english commenting]
      (.error (.failed (.internal "disk full"))) {"users"} := by
    rw [name_commenting]
    exact .lost (by decide) ⟨.inr rfl, _, rfl⟩
  have created : Creation (creating .english commenting) (commenting.name .english) {"users"}
      [.tableList, creating .english commenting] (.ok true) {"comments_posts", "users"} := by
    rw [name_commenting]
    exact .created (by decide)
  have recreating := (calls_settle_table understands_commenting).2.1.mpr lost
  obtain ⟨creates, -, settles⟩ := calls_settle_table understands_commenting
  have creating := creates.mpr created
  obtain ⟨-, again⟩ := settles (.inl creating)
  exact ⟨recreating, creating, (again true rfl _ _ _).2.mpr ⟨rfl, .inr ⟨rfl, rfl⟩⟩⟩

end SqlMapper.JoinTable
