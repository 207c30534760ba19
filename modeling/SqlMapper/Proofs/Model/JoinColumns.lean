import Mathlib.Data.List.Nodup
import SqlMapper.Proofs.Model.JoinType
import SqlMapper.Proofs.Model.TableCreation

/-!
# The columns of a join table

A join table has a column for every key column of both participants, those of the source first. The same
columns come up as the keys of the join table, as the columns and the primary key of its definition, and
as the key of the type of its rows.

* `references`: the columns that refer to the key of one participant.
* `columns_refer_to_keys`: they are the columns of the join table, wherever it names them, and the other
  way round in the reversed join table.
* `Meet`, `meet_iff`: when the columns for two key columns have the same name.
* `nodup_columns_iff`: a definition names every column once, exactly if no two key columns meet.
-/

namespace SqlMapper.JoinTable

/-! ## Specification -/

/-- The column that refers to a key column of a type. -/
def reference (i : Inflector) (e : EntityType) (k : KeyColumn) : ColumnSpec :=
  ⟨i.singularize e.table ++ "_" ++ k.name, k.sqlType, false⟩

/-- The columns that refer to the key of a type, in order. -/
def references (i : Inflector) (e : EntityType) : List ColumnSpec := e.primaryKey.map (reference i e)

/-- Wherever the join table names its columns, they are these. -/
structure Has (c : Catalog) (j : JoinTable) (names : List String) (specs : List ColumnSpec) : Prop where
  keys : j.keys c.inflector = names
  columnNames : (j.schema c.inflector).columns.map (·.name) = names
  primaryKey : (j.schema c.inflector).primaryKey = names
  columns : (j.schema c.inflector).columns = specs
  typeKeys : (j.joinType c).1.entity.keyNames = names
  typeKey : (j.joinType c).1.entity.primaryKey = specs.map fun k => ⟨k.name, k.sqlType⟩

/-! ## Columns -/

section Columns

variable {i : Inflector} {a b e : EntityType} {j : JoinTable}

theorem map_name_references : (references i e).map (·.name) = derivedKeys i e := by
  rw [references, List.map_map]
  rfl

theorem keyColumnsOf_eq :
    keyColumnsOf i e = (references i e).map fun k => ⟨k.name, k.sqlType⟩ := by
  rw [keyColumnsOf, derivedKeys, List.zipWith_map_left, List.zipWith_self, references, List.map_map]
  rfl

theorem keyColumns_eq : j.keyColumns i =
    (references i j.source ++ references i j.destination).map fun k => ⟨k.name, k.sqlType⟩ := by
  rw [keyColumns, keyColumnsOf_eq, keyColumnsOf_eq, List.map_append]

theorem keys_eq : j.keys i = derivedKeys i j.source ++ derivedKeys i j.destination := by
  rw [keys, keyColumns_eq, List.map_map, ← map_name_references, ← map_name_references,
    ← List.map_append]
  rfl

theorem columns_schema :
    (j.schema i).columns = references i j.source ++ references i j.destination := by
  have refer (e : EntityType) :
      (keyColumnsOf i e).map (fun k => (⟨k.name, k.sqlType, false⟩ : ColumnSpec)) =
        references i e := by
    rw [keyColumnsOf_eq, references, List.map_map, List.map_map]
    rfl
  rw [← refer, ← refer, ← List.map_append]
  rfl

theorem map_name_columns_schema : (j.schema i).columns.map (·.name) =
    derivedKeys i j.source ++ derivedKeys i j.destination := by
  rw [columns_schema, List.map_append, map_name_references, map_name_references]

/-- A type that is not found is made with the key of the join table. -/
theorem key_joinType {c : Catalog} (unused : j.kept? = none) (fresh : c.lookup j.typeName = none) :
    (j.joinType c).1.entity.primaryKey = j.keyColumns c.inflector := by
  rw [joinType_of_none unused, Catalog.getOrRegister_entity, fresh]
  rfl

theorem has_references {c : Catalog} (unused : j.kept? = none) (fresh : c.lookup j.typeName = none) :
    j.Has c (derivedKeys c.inflector j.source ++ derivedKeys c.inflector j.destination)
      (references c.inflector j.source ++ references c.inflector j.destination) where
  keys := keys_eq
  columnNames := map_name_columns_schema
  primaryKey := keys_eq
  columns := columns_schema
  typeKeys := by
    unfold EntityType.keyNames
    rw [key_joinType unused fresh]
    exact keys_eq
  typeKey := by rw [key_joinType unused fresh, keyColumns_eq]

theorem derivedName_comm : derivedName i a b = derivedName i b a := by
  unfold derivedName
  by_cases h : i.pluralize b.table < i.pluralize a.table
  · simp [h, String.lt_asymm h]
  · by_cases h' : i.pluralize a.table < i.pluralize b.table
    · simp [h, h']
    · simp [String.le_antisymm (String.not_lt.mp h) (String.not_lt.mp h')]

/-- **The columns refer to the keys.** The join tables between two types have the same name either way.
    Each has a column for every key column of both, those of the source first, and has the same columns
    wherever it names them; the other way round it has the columns of one type after those of the other. -/
theorem columns_refer_to_keys {c : Catalog} (options options' : StorageOptions)
    (fresh : c.lookup (a.name ++ b.name) = none) (fresh' : c.lookup (b.name ++ a.name) = none) :
    (between a b options).name c.inflector = (between b a options').name c.inflector ∧
      (between a b options).Has c (derivedKeys c.inflector a ++ derivedKeys c.inflector b)
        (references c.inflector a ++ references c.inflector b) ∧
      (between b a options').Has c (derivedKeys c.inflector b ++ derivedKeys c.inflector a)
        (references c.inflector b ++ references c.inflector a) :=
  ⟨derivedName_comm, has_references rfl fresh, has_references rfl fresh'⟩

end Columns

/-- A type with a key of two columns. -/
def comment : EntityType := ⟨"Comment", "comments", [⟨"tenant", "bigint"⟩, ⟨"id", "integer"⟩]⟩

/-- A type with a key of one column. -/
def tag : EntityType := ⟨"Tag", "tags", [⟨"slug", "varchar(64)"⟩]⟩

theorem columns_refer_to_keys_comment :
    (Catalog.empty .english).lookup (comment.name ++ tag.name) = none ∧
      (Catalog.empty .english).lookup (tag.name ++ comment.name) = none ∧
      ((between comment tag ⟨none, none⟩).joinType (.empty .english)).1.entity.primaryKey =
        [⟨"comment_tenant", "bigint"⟩, ⟨"comment_id", "integer"⟩, ⟨"tag_slug", "varchar(64)"⟩] ∧
      ((between tag comment ⟨none, none⟩).joinType (.empty .english)).1.entity.primaryKey =
        [⟨"tag_slug", "varchar(64)"⟩, ⟨"comment_tenant", "bigint"⟩, ⟨"comment_id", "integer"⟩] := by
  obtain ⟨-, has, has'⟩ := columns_refer_to_keys (c := .empty .english) (a := comment) (b := tag)
    ⟨none, none⟩ ⟨none, none⟩ rfl rfl
  refine ⟨rfl, rfl, has.typeKey.trans ?_, has'.typeKey.trans ?_⟩
  · decide +kernel
  · decide +kernel

/-! ## Columns of the same name -/

/-- The key columns `x` and `y` of tables with the singular names `s` and `t` are referred to by columns of
    the same name: the tables have the same singular name, or that of one goes on where the other ends. -/
def Meet (s x t y : String) : Prop :=
  (s = t ∧ x = y) ∨ (∃ m, t = s ++ "_" ++ m ∧ x = m ++ "_" ++ y) ∨
    ∃ m, s = t ++ "_" ++ m ∧ y = m ++ "_" ++ x

/-- If one name goes on where the other ends, it goes on with the underscore of the other. -/
theorem eq_or_exists_of_append {s x t y : String} {l : List Char} (ht : t.toList = s.toList ++ l)
    (hx : '_' :: x.toList = l ++ '_' :: y.toList) :
    (s = t ∧ x = y) ∨ ∃ m, t = s ++ "_" ++ m ∧ x = m ++ "_" ++ y := by
  cases l with
  | nil =>
    rw [List.append_nil] at ht
    exact .inl ⟨String.toList_inj.mp ht.symm, String.toList_inj.mp (List.cons.inj hx).2⟩
  | cons c m =>
    obtain ⟨rfl, hrest⟩ : '_' = c ∧ x.toList = m ++ '_' :: y.toList := List.cons.inj hx
    refine .inr ⟨String.ofList m, String.toList_inj.mp ?_, String.toList_inj.mp ?_⟩
    · simp [ht]
    · simp [hrest]

theorem meet_iff {s x t y : String} : Meet s x t y ↔ s ++ "_" ++ x = t ++ "_" ++ y := by
  constructor
  · rintro (⟨rfl, rfl⟩ | ⟨m, rfl, rfl⟩ | ⟨m, rfl, rfl⟩)
    · rfl
    · simp only [String.append_assoc]
    · simp only [String.append_assoc]
  · intro h
    have hlist : s.toList ++ '_' :: x.toList = t.toList ++ '_' :: y.toList := by
      simpa using congrArg String.toList h
    rcases List.append_eq_append_iff.mp hlist with ⟨l, ht, hx⟩ | ⟨l, hs, hy⟩
    · exact (eq_or_exists_of_append ht hx).imp_right .inl
    · rcases eq_or_exists_of_append hs hy with ⟨rfl, rfl⟩ | longer
      · exact .inl ⟨rfl, rfl⟩
      · exact .inr (.inr longer)

section Names

variable {i : Inflector} {a b e : EntityType} {options : StorageOptions}

theorem mem_derivedKeys {n : String} :
    n ∈ derivedKeys i e ↔ ∃ x ∈ e.keyNames, i.singularize e.table ++ "_" ++ x = n := by
  simp [derivedKeys, EntityType.keyNames]

theorem nodup_derivedKeys (h : e.keyNames.Nodup) : (derivedKeys i e).Nodup := by
  have hmap : derivedKeys i e = e.keyNames.map (i.singularize e.table ++ "_" ++ ·) := by
    rw [EntityType.keyNames, List.map_map]
    rfl
  rw [hmap]
  exact h.map fun x y hxy => String.append_right_inj _ |>.mp hxy

/-- **A definition names a column twice if two key columns meet.** The column names of a join table are
    distinct exactly if no key column of one participant meets one of the other; and nothing but this
    definition is sent to create the table. -/
theorem nodup_columns_iff (ha : a.keyNames.Nodup) (hb : b.keyNames.Nodup) :
    ((((between a b options).schema i).columns.map (·.name)).Nodup ↔
        ¬∃ x ∈ a.keyNames, ∃ y ∈ b.keyNames,
          Meet (i.singularize a.table) x (i.singularize b.table) y) ∧
      ∀ es r, ((between a b options).createTable i : Task Program Bool).run.Runs es r →
        ∀ sql, .statement sql ∈ sent es →
          sql = Dialect.mysql.createTableSql ((between a b options).schema i) := by
  constructor
  · have distinct : ((((between a b options).schema i).columns.map (·.name)).Nodup ↔
        ∀ m ∈ derivedKeys i a, ∀ n ∈ derivedKeys i b, m ≠ n) := by
      rw [map_name_columns_schema, List.nodup_append]
      exact ⟨fun h => h.2.2, fun h => ⟨nodup_derivedKeys ha, nodup_derivedKeys hb, h⟩⟩
    rw [distinct]
    constructor
    · rintro h ⟨x, hx, y, hy, meet⟩
      exact h _ (mem_derivedKeys.mpr ⟨x, hx, rfl⟩) _ (mem_derivedKeys.mpr ⟨y, hy, rfl⟩)
        (meet_iff.mp meet)
    · rintro h m hm n hn rfl
      obtain ⟨x, hx, rfl⟩ := mem_derivedKeys.mp hm
      obtain ⟨y, hy, heq⟩ := mem_derivedKeys.mp hn
      exact h ⟨x, hx, y, hy, meet_iff.mpr heq.symm⟩
  · intro es r run sql h
    rcases eq_of_mem_sent run h with hlist | hcreate
    · cases hlist
    · exact Sent.statement.inj hcreate

end Names

/-- A type whose table is named for that of `blogPost` up to an underscore, with the rest in its key. -/
def blog : EntityType := ⟨"Blog", "blogs", [⟨"post_id", "integer"⟩]⟩

def blogPost : EntityType := .ofTable "BlogPost" "blog_posts"

/-- Comments and tags have columns of their own; a blog and a blog post have both `blog_post_id`. -/
theorem nodup_columns_comment :
    comment.keyNames.Nodup ∧ tag.keyNames.Nodup ∧ blog.keyNames.Nodup ∧ blogPost.keyNames.Nodup ∧
      (((between comment tag ⟨none, none⟩).schema .english).columns.map (·.name)).Nodup ∧
      ¬(((between blog blogPost ⟨none, none⟩).schema .english).columns.map (·.name)).Nodup := by
  have hcomment : comment.keyNames.Nodup := by decide +kernel
  have htag : tag.keyNames.Nodup := by decide +kernel
  have hblog : blog.keyNames.Nodup := by decide +kernel
  have hblogPost : blogPost.keyNames.Nodup := by decide +kernel
  refine ⟨hcomment, htag, hblog, hblogPost, (nodup_columns_iff hcomment htag).1.mpr ?_, ?_⟩
  · simp only [meet_iff]
    decide +kernel
  · rw [(nodup_columns_iff hblog hblogPost).1, not_not]
    simp only [meet_iff]
    decide +kernel

/-- A type that is joined to itself has every column twice. -/
theorem not_nodup_columns_self :
    let post : EntityType := .ofTable "Post" "posts"
    post.keyNames.Nodup ∧
      ¬(((between post post ⟨none, none⟩).schema .english).columns.map (·.name)).Nodup ∧
      Dialect.mysql.createTableSql ((between post post ⟨none, none⟩).schema .english) =
        "CREATE TABLE `posts_posts` (`post_id` integer NOT NULL, `post_id` integer NOT NULL, " ++
          "PRIMARY KEY (`post_id`, `post_id`))" := by
  decide +kernel

end SqlMapper.JoinTable
