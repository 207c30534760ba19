import SqlMapper.Model.JoinTable
import SqlMapper.Proofs.Database.Adapter
import SqlMapper.Proofs.Model.Catalog

/-!
# The types of join table rows

Join tables look their row types up under the names of both participants put together, and what is found
there is taken as it is. So two pairs of participants share a type if their names make the same name, and
which table that type has depends on which pair came first.

* `Participants`: declared types that are not mistaken for types of rows.
* `NamesTellApart`: pairs with the same name have the same table and key.
* `rowsOf_joinType_iff`: exactly then every join table gets rows of its own.
-/

namespace SqlMapper.JoinTable

/-! ## Specification -/

/-- A type for the rows of the join table's own table, under the join table's own key. -/
structure RowsOf (i : Inflector) (j : JoinTable) (e : EntityType) : Prop where
  table : e.table = j.name i
  key : e.primaryKey = j.keyColumns i

/-- Types that are declared once each, none of them under the names of two put together. -/
structure Participants (types : List EntityType) : Prop where
  once : (types.map EntityType.name).Nodup
  apart : ∀ a ∈ types, ∀ b ∈ types, ∀ e ∈ types, e.name ≠ a.name ++ b.name

/-- Pairs whose names make the same name have the same join table. -/
def NamesTellApart (i : Inflector) (types : List EntityType) : Prop :=
  ∀ a ∈ types, ∀ b ∈ types, ∀ c ∈ types, ∀ d ∈ types, a.name ++ b.name = c.name ++ d.name →
    derivedName i a b = derivedName i c d ∧
      keyColumnsOf i a ++ keyColumnsOf i b = keyColumnsOf i c ++ keyColumnsOf i d

/-- The requests that insert a row into a table; there is but one if no connection is to be had. -/
def Inserts (table : String) (values : Record) (es : List Event) : Prop :=
  (∃ stop, es = [⟨.acquire, .error stop⟩]) ∨
    ∃ conn answer, es = ⟨.acquire, .ok conn⟩ ::
      Adapter.sending conn (Dialect.mysql.insertSql table values) answer ++ [⟨.release conn false, ()⟩]

/-- A catalog and the join tables that are in use. -/
structure Usage where
  catalog : Catalog
  tables : List JoinTable

namespace Usage

/-- After the look-up of a row type. -/
def lookedUp (s : Usage) (k : Nat) (j : JoinTable) : Usage :=
  ⟨(j.joinType s.catalog).2.2, s.tables.set k (j.joinType s.catalog).2.1⟩

/-- The look-up of a row type as a part of an insertion. -/
def lookUp (k : Nat) (j : JoinTable) : Task (StateT Usage Program) Registered :=
  ExceptT.mk fun s => pure (.ok (j.joinType s.catalog).1, s.lookedUp k j)

/-- The insertion of a row. -/
def create (k : Nat) (j : JoinTable) (values : Record) (s : Usage) :
    Program (Except Stop Instance × Usage) :=
  (JoinTable.create Executor.adapter (lookUp k j) values).run.run s

/-- A new join table between two declared types, the look-up of a row type, or the insertion of a row,
    however it goes. -/
inductive Step (types : List EntityType) (s : Usage) : Usage → Prop
  | between {a b : EntityType} (ha : a ∈ types) (hb : b ∈ types) (options : StorageOptions) :
    Step types s ⟨s.catalog, s.tables ++ [between a b options]⟩
  | joinType {k : Nat} {j : JoinTable} (hj : s.tables[k]? = some j) : Step types s (s.lookedUp k j)
  | create {k : Nat} {j : JoinTable} (hj : s.tables[k]? = some j) {values : Record} {es : List Event}
    {x : Except Stop Instance} {s' : Usage} (run : (create k j values s).Runs es (x, s')) :
    Step types s s'

end Usage

/-- What can be reached after the given types were declared. -/
inductive Usage.Reachable (i : Inflector) (types : List EntityType) : Usage → Prop
  | declared : Reachable i types ⟨.declared i types, []⟩
  | step {s s' : Usage} (reached : Reachable i types s) (next : s.Step types s') : Reachable i types s'

variable {i : Inflector} {types : List EntityType} {s : Usage} {j : JoinTable} {c : Catalog}

/-! ## One look-up -/

theorem joinType_of_kept {r : Registered} (h : j.kept? = some r) : j.joinType c = (r, j, c) := by
  rw [joinType, h]

theorem joinType_of_none (h : j.kept? = none) :
    j.joinType c =
      ((c.getOrRegister j.typeName (j.builtType c.inflector)).1,
        { j with kept? := some (c.getOrRegister j.typeName (j.builtType c.inflector)).1 },
        (c.getOrRegister j.typeName (j.builtType c.inflector)).2.2) := by
  rw [joinType, h]

/-- After a look-up the join table keeps the type that was found. -/
theorem kept_joinType : (j.joinType c).2.1 = { j with kept? := some (j.joinType c).1 } := by
  cases h : j.kept? with
  | some r =>
    rw [joinType_of_kept h]
    obtain ⟨source, destination, options, kept⟩ := j
    cases h
    rfl
  | none => rw [joinType_of_none h]

theorem inflector_joinType : (j.joinType c).2.2.inflector = c.inflector := by
  cases h : j.kept? with
  | some r => rw [joinType_of_kept h]
  | none =>
    rw [joinType_of_none h]
    exact Catalog.inflector_getOrRegister _ _

/-! ## One insertion -/

/-- An insertion changes what the look-up changes, and does what it would do with a type that is known. -/
theorem Usage.create_eq (k : Nat) (j : JoinTable) (values : Record) (s : Usage) :
    create k j values s = (fun x => (x, s.lookedUp k j)) <$>
      (JoinTable.create Executor.adapter (pure (j.joinType s.catalog).1) values :
        Task Program Instance).run := by
  refine congrArg (Program.ask .acquire) (funext fun x => ?_)
  cases x with
  | error stop => rfl
  | ok conn =>
    refine congrArg (Program.ask _) (funext fun _ => congrArg (Program.ask _) (funext fun y => ?_))
    cases y <;> rfl

theorem Usage.runs_create {k : Nat} {values : Record} {es : List Event} {x : Except Stop Instance}
    {s' : Usage} :
    (create k j values s).Runs es (x, s') ↔ s' = s.lookedUp k j ∧
      (JoinTable.create Executor.adapter (pure (j.joinType s.catalog).1) values :
        Task Program Instance).run.Runs es x := by
  rw [create_eq, Program.runs_map]
  constructor
  · rintro ⟨y, run, h⟩
    cases h
    exact ⟨rfl, run⟩
  · rintro ⟨rfl, run⟩
    exact ⟨x, run, rfl⟩

/-! ## The invariant -/

/-- A type that was made for the rows of a pair with the given name. -/
def MadeFor (i : Inflector) (types : List EntityType) (n : String) (e : EntityType) : Prop :=
  ∃ a ∈ types, ∃ b ∈ types, n = a.name ++ b.name ∧ e.table = derivedName i a b ∧
    e.primaryKey = keyColumnsOf i a ++ keyColumnsOf i b

/-- A join table of declared types that keeps no rows but its own. -/
structure Sound (i : Inflector) (types : List EntityType) (j : JoinTable) : Prop where
  source : j.source ∈ types
  destination : j.destination ∈ types
  kept : ∀ ⦃r⦄, j.kept? = some r → RowsOf i j r.entity

/-- Every entry is a declared one or made for a pair, and every join table is sound. -/
structure Usage.Invariant (i : Inflector) (types : List EntityType) (s : Usage) : Prop where
  inflector : s.catalog.inflector = i
  entries : ∀ ⦃n r⦄, s.catalog.lookup n = some r →
    (∃ e ∈ types, e.name = n) ∨ MadeFor i types n r.entity
  tables : ∀ j ∈ s.tables, Sound i types j

theorem Usage.invariant_declared : Invariant i types ⟨.declared i types, []⟩ where
  inflector := Catalog.inflector_declared
  entries _ _ h := .inl (Catalog.exists_of_lookup_declared h)
  tables := List.forall_mem_nil _

/-- A join table gets rows of its own. -/
theorem Usage.Invariant.rowsOf_joinType (inv : s.Invariant i types) (hp : Participants types)
    (ht : NamesTellApart i types) (hj : j ∈ s.tables) : RowsOf i j (j.joinType s.catalog).1.entity := by
  obtain ⟨hsource, hdestination, hrows⟩ := inv.tables j hj
  cases hkept : j.kept? with
  | some r =>
    rw [joinType_of_kept hkept]
    exact hrows hkept
  | none =>
    rw [joinType_of_none hkept, Catalog.getOrRegister_entity]
    cases hfound : s.catalog.lookup j.typeName with
    | none =>
      rw [inv.inflector]
      exact ⟨rfl, rfl⟩
    | some r =>
      rcases inv.entries hfound with ⟨e, he, hn⟩ | ⟨a, ha, b, hb, hn, htable, hkey⟩
      · exact absurd hn (hp.apart _ hsource _ hdestination e he)
      · -- whatever pair the type was made for, it has the same join table
        obtain ⟨hname, hkeys⟩ := ht a ha b hb _ hsource _ hdestination hn.symm
        exact ⟨htable.trans hname, hkey.trans hkeys⟩

theorem Usage.Invariant.lookedUp {k : Nat} (inv : s.Invariant i types) (hp : Participants types)
    (ht : NamesTellApart i types) (hk : s.tables[k]? = some j) : (s.lookedUp k j).Invariant i types := by
  have hj : j ∈ s.tables := List.mem_of_getElem? hk
  have rows := inv.rowsOf_joinType hp ht hj
  obtain ⟨hsource, hdestination, -⟩ := inv.tables j hj
  refine ⟨inflector_joinType.trans inv.inflector, ?_, ?_⟩
  · intro n r hr
    unfold Usage.lookedUp at hr
    cases hkept : j.kept? with
    | some r' =>
      rw [joinType_of_kept hkept] at hr
      exact inv.entries hr
    | none =>
      rw [joinType_of_none hkept] at hr rows
      rw [Catalog.lookup_getOrRegister] at hr
      split at hr
      · next hn =>
        obtain rfl := Option.some.inj hr
        exact .inr ⟨_, hsource, _, hdestination, hn, rows.table, rows.key⟩
      · exact inv.entries hr
  · intro j' hj'
    rcases List.mem_or_eq_of_mem_set hj' with hold | rfl
    · exact inv.tables j' hold
    · rw [kept_joinType]
      refine ⟨hsource, hdestination, fun r hr => ?_⟩
      obtain rfl := Option.some.inj hr
      exact ⟨rows.table, rows.key⟩

theorem Usage.Invariant.step {s' : Usage} (inv : s.Invariant i types) (hp : Participants types)
    (ht : NamesTellApart i types) (next : s.Step types s') : s'.Invariant i types := by
  cases next with
  | between ha hb options =>
    refine ⟨inv.inflector, inv.entries, List.forall_mem_append.mpr ⟨inv.tables, ?_⟩⟩
    exact List.forall_mem_singleton.mpr ⟨ha, hb, fun r hr => by cases hr⟩
  | joinType hk => exact inv.lookedUp hp ht hk
  | create hk run =>
    obtain ⟨rfl, -⟩ := runs_create.mp run
    exact inv.lookedUp hp ht hk

theorem Usage.Reachable.invariant (reached : Reachable i types s) (hp : Participants types)
    (ht : NamesTellApart i types) : s.Invariant i types := by
  induction reached with
  | declared => exact invariant_declared
  | step _ next ih => exact ih.step hp ht next

/-! ## Rows of its own -/

/-- A row is inserted into the table of its type. -/
theorem inserts_of_runs_create {r : Registered} {values : Record} {es : List Event}
    {x : Except Stop Instance}
    (run : (create Executor.adapter (pure r) values : Task Program Instance).run.Runs es x) :
    Inserts r.entity.table values es := by
  -- a new instance is not refused, so its row is inserted
  have inserting : (do
      let outcome ← Adapter.execute (Dialect.mysql.insertSql r.entity.table values)
      return ⟨r.entity, Instance.withKey r.entity values outcome.insertId?, true⟩ :
        Task Program Instance).run.Runs es x := run
  have hexecute : ∃ x, (Adapter.execute (Dialect.mysql.insertSql r.entity.table values) :
      Task Program Outcome).run.Runs es x := by
    rcases Task.runs_bind.mp inserting with ⟨s, h, -⟩ | ⟨a, es₁, es₂, h₁, ⟨rfl, -⟩, rfl⟩
    · exact ⟨_, h⟩
    · exact ⟨_, by rwa [List.append_nil]⟩
  obtain ⟨x, hx⟩ := hexecute
  rcases Adapter.runs_holding.mp hx with ⟨stop, rfl, -⟩ | ⟨conn, uses, hbody, rfl⟩
  · exact .inl ⟨stop, rfl⟩
  · rw [Adapter.runs_executeOn.mp hbody]
    exact .inr ⟨conn, x, rfl⟩

/-- A join table that looks up the name under which another one has just put its row type gets that. -/
theorem entity_joinType_joinType {j' : JoinTable} (h : j.kept? = none) (h' : j'.kept? = none)
    (hname : j.typeName = j'.typeName) (hnone : c.lookup j.typeName = none) :
    (j'.joinType (j.joinType c).2.2).1.entity = j.builtType c.inflector := by
  rw [joinType_of_none h', Catalog.getOrRegister_entity, joinType_of_none h,
    Catalog.lookup_getOrRegister, if_pos hname.symm, Option.map_some, Option.getD_some,
    Catalog.getOrRegister_entity, hnone]
  rfl

/-- If two pairs make the same name, the one that comes second gets the rows of the first. -/
theorem Usage.exists_reachable_shared {a b c d : EntityType} (hp : Participants types) (ha : a ∈ types)
    (hb : b ∈ types) (hc : c ∈ types) (hd : d ∈ types) (hname : a.name ++ b.name = c.name ++ d.name)
    (options : StorageOptions) :
    ∃ s, Reachable i types s ∧ between c d options ∈ s.tables ∧
      ((between c d options).joinType s.catalog).1.entity = (between a b options).builtType i := by
  have hnone : (Catalog.declared i types).lookup (between a b options).typeName = none := by
    cases hfound : (Catalog.declared i types).lookup (between a b options).typeName with
    | none => rfl
    | some r =>
      obtain ⟨e, he, hn⟩ := Catalog.exists_of_lookup_declared hfound
      exact absurd hn (hp.apart a ha b hb e he)
  have first : Reachable i types _ := Reachable.declared.step (.between ha hb options)
  have second := (first.step (.joinType (k := 0) rfl)).step (.between hc hd options)
  have hsame : (between a b options).typeName = (between c d options).typeName := hname
  have shared := entity_joinType_joinType rfl rfl hsame hnone
  rw [Catalog.inflector_declared] at shared
  exact ⟨_, second, List.mem_append_right _ List.mem_cons_self, shared⟩

/-- **Rows of their own.** Every join table between declared types gets a row type with its own table and
    its own key, so that its rows are inserted into its own table, whatever was used before: exactly if
    pairs of these types whose names make the same name have the same join table. -/
theorem rowsOf_joinType_iff (hp : Participants types) :
    (∀ s, Usage.Reachable i types s → ∀ k j, s.tables[k]? = some j →
      RowsOf i j (j.joinType s.catalog).1.entity ∧
        ∀ values es x s', (Usage.create k j values s).Runs es (x, s') → Inserts (j.name i) values es) ↔
      NamesTellApart i types := by
  constructor
  · intro h a ha b hb c hc d hd hname
    obtain ⟨s, reached, hj, hentity⟩ :=
      Usage.exists_reachable_shared (i := i) hp ha hb hc hd hname ⟨none, none⟩
    obtain ⟨k, hk⟩ := List.mem_iff_getElem?.mp hj
    have rows := (h s reached k _ hk).1
    rw [hentity] at rows
    exact ⟨rows.table, rows.key⟩
  · intro ht s reached k j hk
    have rows := (reached.invariant hp ht).rowsOf_joinType hp ht (List.mem_of_getElem? hk)
    refine ⟨rows, fun values es x s' run => ?_⟩
    rw [← rows.table]
    exact inserts_of_runs_create (Usage.runs_create.mp run).2

/-- Declared types no two pairs of which make the same name. -/
def tagging : List EntityType := [.ofTable "Post" "posts", .ofTable "Tag" "tags"]

theorem rowsOf_joinType_tagging :
    Participants tagging ∧ ∀ s, Usage.Reachable .english tagging s → ∀ k j, s.tables[k]? = some j →
      RowsOf .english j (j.joinType s.catalog).1.entity ∧
        ∀ values es x s', (Usage.create k j values s).Runs es (x, s') →
          Inserts (j.name .english) values es := by
  have hp : Participants tagging := ⟨by decide, by decide⟩
  refine ⟨hp, (rowsOf_joinType_iff hp).mpr ?_⟩
  unfold NamesTellApart
  decide +kernel

/-- Declared types two of whose pairs make the name `PostTagUser`. -/
def clashing : List EntityType :=
  [.ofTable "Post" "posts", .ofTable "TagUser" "tag_users", .ofTable "PostTag" "post_tags",
    .ofTable "User" "users"]

/-- A join table whose rows go to the table of another one. -/
theorem not_rowsOf_joinType_clashing :
    Participants clashing ∧ ∃ s, Usage.Reachable .english clashing s ∧ ∃ j ∈ s.tables,
      ¬ RowsOf .english j (j.joinType s.catalog).1.entity ∧ j.name .english = "post_tags_users" ∧
        (j.joinType s.catalog).1.entity.table = "posts_tag_users" := by
  have hp : Participants clashing := ⟨by decide, by decide⟩
  obtain ⟨s, reached, hj, hentity⟩ := Usage.exists_reachable_shared (i := .english) hp
    (a := .ofTable "Post" "posts") (b := .ofTable "TagUser" "tag_users")
    (c := .ofTable "PostTag" "post_tags") (d := .ofTable "User" "users")
    (by decide) (by decide) (by decide) (by decide) (by decide) ⟨none, none⟩
  have hname : (between (.ofTable "PostTag" "post_tags") (.ofTable "User" "users")
      ⟨none, none⟩).name .english = "post_tags_users" := by decide +kernel
  have htable : (builtType .english (between (.ofTable "Post" "posts")
      (.ofTable "TagUser" "tag_users") ⟨none, none⟩)).table = "posts_tag_users" := by decide +kernel
  refine ⟨hp, s, reached, _, hj, ?_, hname, ?_⟩
  · rw [hentity]
    intro rows
    have clash := rows.table
    rw [htable, hname] at clash
    exact absurd clash (by decide)
  · rw [hentity, htable]

end SqlMapper.JoinTable
