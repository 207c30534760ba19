import SqlMapper.Proofs.Model.Executors

/-!
# The first row

A dataset reads its first row by a statement of its own, which has the limit 1 in place of the dataset's.
On a server that cuts an answer off at the limit this is the first of the rows that the dataset reads. The
limit 0 is the exception: then the dataset reads no rows, and yet has a first one.

* `Answers`: a server, as what it answers to statements that read.
* `Task.ComesTo`, `Transaction.Block.ComesTo`: what an operation comes to on a server.
* `collect_take`: the first rows of an answer are decoded to the first records.
* `first_isHeadOf_all_iff`: both operations of a dataset, through the adapter and through a transaction.
-/

namespace SqlMapper

open Transaction (Block Handle)

/-! ## Specification -/

/-- A row as the server sends it, with the fields that it reports then. -/
abbrev SentRow := RawRow × List Field

/-- The fetches that bring some rows. -/
def fetches (rows : List SentRow) : RowStream := rows.map fun p => ⟨.ok (some p.1), p.2⟩

/-- What a server answers to the statements that read: all rows of the result, or why there are none. -/
abbrev Answers := String → Except Error (List SentRow)

namespace Answers

/-- The fetches that bring an answer. An error comes with the first. -/
def stream : Except Error (List SentRow) → RowStream
  | .ok rows => fetches rows
  | .error e => [⟨.error e, []⟩]

variable (v : Answers)

/-- A statement with a limit is answered by the first rows of the answer to the statement without. -/
def Limits (sql : String) : Prop :=
  ∀ n : UInt64, v (sql ++ " LIMIT " ++ Nat.repr n.toNat) = (v sql).map (·.take n.toNat)

/-- If an exchange is a statement with rows, the reply brings the answer of the server. -/
def Gives : Exchange → Prop
  | ⟨.statement sql, .rows x⟩ => x = .ok (stream (v sql))
  | _ => True

/-- The records that a statement reads, or the first error. -/
def records (sql : String) : Except Stop (List Record) := Adapter.collected (stream (v sql))

end Answers

section ComingTo

variable {α β : Type}

/-- What a task may come to on a server, if no connection is refused. -/
def Task.ComesTo (t : Task Program α) (v : Answers) (r : Except Stop α) : Prop :=
  ∃ ss, t.Has ss r ∧ ∀ x ∈ ss, v.Gives x

/-- What the block of a transaction may come to on a server, at some depth. -/
def Transaction.Block.ComesTo (b : Block Program α) (v : Answers) (h : Handle) (depth : UInt32)
    (r : Except Stop α × UInt32) : Prop :=
  ∃ ss, b.Has h depth ss r ∧ ∀ x ∈ ss, v.Gives x

/-- The first of some records, where these can be had; and none only where there are none. -/
def IsHeadOf (first : Except Stop (Option Record)) (all : Except Stop (List Record)) : Prop :=
  (∀ rs, all = .ok rs → first = .ok rs.head?) ∧ (first = .ok none ↔ all = .ok [])

/-- The dataset without its limit. -/
def Dataset.unlimited (d : Dataset) : Dataset := { d with clauses := { d.clauses with limit? := none } }

/-! ## On a server -/

theorem Answers.forall_gives_statement {v : Answers} {sql : String} {x : Except Stop RowStream} :
    (∀ e ∈ [(⟨.statement sql, .rows x⟩ : Exchange)], v.Gives e) ↔ x = .ok (Answers.stream (v sql)) :=
  List.forall_mem_singleton

theorem Task.comesTo_fetchAll {v : Answers} {sql : String} {r : Except Stop (List Record)} :
    (Adapter.fetchAll sql : Task Program (List Record)).ComesTo v r ↔ r = v.records sql := by
  constructor
  · rintro ⟨ss, has, given⟩
    obtain ⟨x, rfl, rfl⟩ := Task.has_fetchAll.mp has
    rw [Answers.forall_gives_statement.mp given]
    rfl
  · rintro rfl
    exact ⟨_, Task.has_fetchAll.mpr ⟨_, rfl, rfl⟩, Answers.forall_gives_statement.mpr rfl⟩

theorem Task.comesTo_map {t : Task Program β} {f : β → α} {v : Answers} {r : Except Stop α} :
    (t >>= fun a => pure (f a)).ComesTo v r ↔ ∃ x, t.ComesTo v x ∧ r = x.map f := by
  constructor
  · rintro ⟨ss, has, given⟩
    obtain ⟨x, inner, rfl⟩ := Task.has_map.mp has
    exact ⟨x, ⟨ss, inner, given⟩, rfl⟩
  · rintro ⟨x, ⟨ss, inner, given⟩, rfl⟩
    exact ⟨ss, Task.has_map.mpr ⟨x, inner, rfl⟩, given⟩

/-- A block comes to what the task comes to that it mirrors. -/
theorem Mirrors.comesTo_iff {t : Task Program α} {b : Block Program α} (same : Mirrors t b) {v : Answers}
    {out : Except Stop α} (task : ∀ r, t.ComesTo v r ↔ r = out) (h : Handle) (depth : UInt32)
    (r : Except Stop α × UInt32) : b.ComesTo v h depth r ↔ r = (out, depth) := by
  obtain ⟨r, depth'⟩ := r
  rw [Prod.mk.injEq, ← task]
  constructor
  · rintro ⟨ss, hblock, given⟩
    obtain ⟨htask, rfl⟩ := (same h depth ss r depth').mp hblock
    exact ⟨⟨ss, htask, given⟩, rfl⟩
  · rintro ⟨⟨ss, htask, given⟩, rfl⟩
    exact ⟨ss, (same h depth' ss r depth').mpr ⟨htask, rfl⟩, given⟩

end ComingTo

/-! ## The first records of an answer -/

namespace Decoder

variable {d : Decoder} {rows : List SentRow} {rs : List Record}

theorem collect_fetches_nil (d : Decoder) : (d.collect (fetches [])).1 = .ok [] := by
  rw [fetches, List.map_nil, collect]
  split <;> rfl

/-- The first row makes the first record, and the decoder stays open for the others. -/
theorem exists_collect_cons_iff (hopen : d.finished = false) (p : SentRow) :
    ∃ d' : Decoder, d'.finished = false ∧ ∀ rows rs, (d.collect (fetches (p :: rows))).1 = .ok rs ↔
      ∃ r rest, record d'.qualified d'.columns p.1 = .ok r ∧ (d'.collect (fetches rows)).1 = .ok rest ∧
        rs = r :: rest := by
  obtain ⟨row, fields⟩ := p
  obtain ⟨d', hd', htake⟩ : ∃ d' : Decoder, d'.finished = false ∧ d.take ⟨.ok (some row), fields⟩ =
      ((record d'.qualified d'.columns row).map some, d') := by
    refine ⟨if d.columns.isEmpty then { d with columns := Column.ofFields 0 fields } else d, ?_, rfl⟩
    split <;> exact hopen
  have hcons (rows : List SentRow) :
      fetches ((row, fields) :: rows) = ⟨.ok (some row), fields⟩ :: fetches rows := rfl
  refine ⟨d', hd', fun rows rs => ?_⟩
  rw [hcons, collect, if_neg (by simp [hopen])]
  simp only [htake]
  cases record d'.qualified d'.columns row with
  | error e => simp [Except.map]
  | ok r =>
    simp only [Except.map]
    rcases d'.collect (fetches rows) with ⟨e | rest, left⟩
    · simp
    · simp [eq_comm]

/-- The first rows of an answer are decoded to the first records. -/
theorem collect_take (hopen : d.finished = false) (h : (d.collect (fetches rows)).1 = .ok rs) (n : Nat) :
    (d.collect (fetches (rows.take n))).1 = .ok (rs.take n) := by
  induction rows generalizing d rs n with
  | nil =>
    rw [collect_fetches_nil] at h
    cases h
    rw [List.take_nil, collect_fetches_nil, List.take_nil]
  | cons p rows ih =>
    cases n with
    | zero => exact collect_fetches_nil d
    | succ n =>
      obtain ⟨d', hopen', collect_cons⟩ := exists_collect_cons_iff hopen p
      obtain ⟨r, rest, hrecord, hrest, rfl⟩ := (collect_cons rows rs).mp h
      exact (collect_cons _ _).mpr ⟨r, rest.take n, hrecord, ih hopen' hrest n, rfl⟩

theorem collect_eq_nil_iff (hopen : d.finished = false) :
    (d.collect (fetches rows)).1 = .ok [] ↔ rows = [] := by
  constructor
  · intro h
    cases rows with
    | nil => rfl
    | cons p rows =>
      obtain ⟨d', -, collect_cons⟩ := exists_collect_cons_iff hopen p
      obtain ⟨r, rest, -, -, hnil⟩ := (collect_cons rows []).mp h
      cases hnil
  · rintro rfl
    exact collect_fetches_nil d

end Decoder

section Collected

variable {rows : List SentRow}

theorem collected_eq_ok_iff {s : RowStream} {rs : List Record} :
    Adapter.collected s = .ok rs ↔ ((Decoder.start false).collect s).1 = .ok rs := by
  unfold Adapter.collected
  cases ((Decoder.start false).collect s).1 with
  | error e => exact ⟨nofun, nofun⟩
  | ok found =>
    constructor
    · intro h
      exact congrArg Except.ok (Except.ok.inj h)
    · intro h
      cases h
      rfl

theorem collected_take {rs : List Record} (h : Adapter.collected (fetches rows) = .ok rs) (n : Nat) :
    Adapter.collected (fetches (rows.take n)) = .ok (rs.take n) :=
  collected_eq_ok_iff.mpr (Decoder.collect_take rfl (collected_eq_ok_iff.mp h) n)

theorem collected_eq_nil_iff : Adapter.collected (fetches rows) = .ok [] ↔ rows = [] :=
  collected_eq_ok_iff.trans (Decoder.collect_eq_nil_iff rfl)

theorem map_head?_eq_none_iff {x : Except Stop (List Record)} :
    x.map List.head? = .ok none ↔ x = .ok [] := by
  cases x <;> simp [Except.map]

/-- The first row alone makes the head of all records. -/
theorem isHeadOf_take_one (rows : List SentRow) :
    IsHeadOf ((Adapter.collected (fetches (rows.take 1))).map List.head?)
      (Adapter.collected (fetches rows)) := by
  constructor
  · intro rs h
    rw [collected_take h, Except.map, List.head?_take, if_neg Nat.one_ne_zero]
  · rw [map_head?_eq_none_iff, collected_eq_nil_iff, collected_eq_nil_iff, List.take_eq_nil_iff]
    simp

end Collected

/-! ## Datasets -/

namespace Dataset

variable (d : Dataset)

theorem selectSql_limit (n : UInt64) :
    (d.limit n).selectSql = d.unlimited.selectSql ++ " LIMIT " ++ Nat.repr n.toNat := by
  simp only [selectSql, limit, unlimited, Dialect.selectSql, Dialect.limitClause, String.append_empty,
    String.append_assoc]
  rfl

/-- The limit of the first row wins over that of the dataset. -/
theorem firstSql_eq : d.firstSql = (d.limit 1).selectSql := rfl

variable {d} {v : Answers}

theorem answer_selectSql (limits : v.Limits d.unlimited.selectSql) : v d.selectSql =
    (v d.unlimited.selectSql).map fun rows => d.clauses.limit?.elim rows (rows.take ·.toNat) := by
  cases h : d.clauses.limit? with
  | none =>
    have hd : d.unlimited = d := by
      unfold unlimited
      rw [← h]
    rw [hd]
    cases v d.selectSql <;> rfl
  | some n =>
    have hd : d.limit n = d := by
      unfold limit
      rw [← h]
    rw [← hd, selectSql_limit]
    exact limits n

theorem answer_firstSql (limits : v.Limits d.unlimited.selectSql) :
    v d.firstSql = (v d.unlimited.selectSql).map (·.take 1) := by
  rw [firstSql_eq, selectSql_limit]
  exact limits 1

/-- Unless there is a limit of no rows, the limit does not cut off the first one. -/
theorem take_one_limited {limit? : Option UInt64} (h : limit? ≠ some 0) (rows : List SentRow) :
    (limit?.elim rows (rows.take ·.toNat)).take 1 = rows.take 1 := by
  cases limit? with
  | none => rfl
  | some n =>
    have hpos : 0 < n.toNat :=
      Nat.pos_of_ne_zero fun hzero => h (congrArg some (UInt64.toNat_inj.mp hzero))
    exact List.take_take.trans (congrArg rows.take (Nat.min_eq_left hpos))

/-- What the two operations read on a server that cuts answers off at the limit. -/
theorem isHeadOf_records_iff (limits : v.Limits d.unlimited.selectSql) :
    IsHeadOf ((v.records d.firstSql).map List.head?) (v.records d.selectSql) ↔
      (d.clauses.limit? = some 0 → ∀ rows, v d.unlimited.selectSql = .ok rows → rows = []) := by
  unfold Answers.records
  rw [answer_selectSql limits, answer_firstSql limits]
  cases v d.unlimited.selectSql with
  | error e =>
    have failed : Adapter.collected (Answers.stream (.error e)) = .error (.failed e) := rfl
    simp [IsHeadOf, Except.map, failed]
  | ok rows =>
    let found := d.clauses.limit?.elim rows (rows.take ·.toNat)
    show IsHeadOf ((Adapter.collected (fetches (rows.take 1))).map List.head?)
      (Adapter.collected (fetches found)) ↔ _
    have holds (h : found.take 1 = rows.take 1) :
        IsHeadOf ((Adapter.collected (fetches (rows.take 1))).map List.head?)
          (Adapter.collected (fetches found)) := h ▸ isHeadOf_take_one found
    constructor
    · intro head hzero rows' hrows
      cases hrows
      have hfound : found = [] := by simp [found, hzero]
      have none_first := head.2.mpr (collected_eq_nil_iff.mpr hfound)
      rw [map_head?_eq_none_iff, collected_eq_nil_iff, List.take_eq_nil_iff] at none_first
      exact none_first.resolve_left Nat.one_ne_zero
    · intro hnone
      apply holds
      by_cases hzero : d.clauses.limit? = some 0
      · have hrows : rows = [] := hnone hzero rows rfl
        subst hrows
        exact congrArg (List.take 1) (by simp [found, hzero])
      · exact take_one_limited hzero rows

/-- **The first row of a dataset.** On every server that cuts the answer to the dataset's statement off at
    a limit, reading all rows comes to the records of the statement, and reading the first row to one
    result too, through the adapter and through the handle of a transaction, which stays at its depth. The
    first row is the head of all rows, and there is none only if no rows are read: for every dataset
    without the limit 0, and under the limit 0 exactly if the server has no rows or an error to answer. -/
theorem first_isHeadOf_all_iff (limits : v.Limits d.unlimited.selectSql) :
    ∃ first,
      (∀ r, (d.all Executor.adapter).ComesTo v r ↔ r = v.records d.selectSql) ∧
      (∀ r, (d.first Executor.adapter).ComesTo v r ↔ r = first) ∧
      (∀ h depth r, (d.all Executor.transaction).ComesTo v h depth r ↔
        r = (v.records d.selectSql, depth)) ∧
      (∀ h depth r, (d.first Executor.transaction).ComesTo v h depth r ↔ r = (first, depth)) ∧
      (IsHeadOf first (v.records d.selectSql) ↔
        (d.clauses.limit? = some 0 → ∀ rows, v d.unlimited.selectSql = .ok rows → rows = [])) := by
  have all_adapter (r : Except Stop (List Record)) :
      (d.all Executor.adapter).ComesTo v r ↔ r = v.records d.selectSql := Task.comesTo_fetchAll
  have first_adapter (r : Except Stop (Option Record)) :
      (d.first Executor.adapter).ComesTo v r ↔ r = (v.records d.firstSql).map List.head? := by
    refine Task.comesTo_map.trans ?_
    simp only [Executor.adapter, Task.comesTo_fetchAll, exists_eq_left]
  have first_mirrors : Mirrors (d.first Executor.adapter) (d.first Executor.transaction) :=
    (Mirrors.fetchAll d.firstSql).bind fun _ => .pure _
  exact ⟨_, all_adapter, first_adapter, (Mirrors.fetchAll d.selectSql).comesTo_iff all_adapter,
    first_mirrors.comesTo_iff first_adapter, isHeadOf_records_iff limits⟩

end Dataset

/-! ## A server with one table -/

/-- A server that has rows for one statement, and cuts them off where a limit is added. -/
def Answers.serving (sql : String) (rows : List SentRow) : Answers := fun text =>
  if text = sql then .ok rows
  else match (Text.dropPrefix? (sql ++ " LIMIT ").toList text.toList).bind Number.readNat? with
    | some n => .ok (rows.take n)
    | none => .error (.database "syntax error" (some "42000") "none")

theorem Answers.limits_serving (sql : String) (rows : List SentRow) :
    (serving sql rows).Limits sql := by
  intro n
  have longer : sql ++ " LIMIT " ++ Nat.repr n.toNat ≠ sql := by
    simp [String.ext_iff]
  have rest : Text.dropPrefix? (sql ++ " LIMIT ").toList (sql ++ " LIMIT " ++ Nat.repr n.toNat).toList =
      some (Number.decimal n.toNat) := by
    simp [Text.dropPrefix?, Nat.repr, Number.decimal]
  simp only [serving, if_neg longer, rest, if_true, Option.bind_some, Number.readNat?_decimal]
  rfl

namespace Dataset

/-- The identifiers of two posts, as they are sent. -/
def sentPosts : List SentRow :=
  [([some [0x31]], [⟨"id", some "posts", 3⟩]), ([some [0x32]], [⟨"id", some "posts", 3⟩])]

/-- A post by its identifier. -/
def post (id : Int64) : Record := .ofList [("id", .integer id)]

theorem first_isHeadOf_all_two :
    let d := (ofTable "posts").limit 2
    let v := Answers.serving d.unlimited.selectSql sentPosts
    v.Limits d.unlimited.selectSql ∧
      (d.all Executor.adapter).ComesTo v (.ok [post 1, post 2]) ∧
      ∀ r, (d.first Executor.adapter).ComesTo v r ↔ r = .ok (some (post 1)) := by
  intro d v
  have limits : v.Limits d.unlimited.selectSql := Answers.limits_serving _ _
  have stored : v d.unlimited.selectSql = .ok sentPosts := if_pos rfl
  have hrecords : v.records d.selectSql = .ok [post 1, post 2] := by
    rw [Answers.records, answer_selectSql limits, stored]
    rfl
  obtain ⟨first, hall, hfirst, -, -, head_iff⟩ := first_isHeadOf_all_iff limits
  have head : IsHeadOf first (v.records d.selectSql) :=
    head_iff.mpr fun hzero => absurd hzero (by decide)
  refine ⟨limits, (hall _).mpr hrecords.symm, fun r => ?_⟩
  rw [hfirst, head.1 _ hrecords]
  rfl

/-- Under the limit 0 no posts are read, and yet there is a first one. -/
theorem not_isHeadOf_limit_zero :
    let d := (ofTable "posts").limit 0
    let v := Answers.serving d.unlimited.selectSql sentPosts
    v.Limits d.unlimited.selectSql ∧ (d.all Executor.adapter).ComesTo v (.ok []) ∧
      (d.first Executor.adapter).ComesTo v (.ok (some (post 1))) ∧
      ¬IsHeadOf (.ok (some (post 1))) (.ok []) := by
  intro d v
  have limits : v.Limits d.unlimited.selectSql := Answers.limits_serving _ _
  have stored : v d.unlimited.selectSql = .ok sentPosts := if_pos rfl
  have hall : v.records d.selectSql = .ok [] := by
    rw [Answers.records, answer_selectSql limits, stored]
    exact collected_eq_nil_iff.mpr rfl
  have hfirst : (v.records d.firstSql).map List.head? = .ok (some (post 1)) := by
    rw [Answers.records, answer_firstSql limits, stored]
    rfl
  refine ⟨limits, Task.comesTo_fetchAll.mpr hall.symm,
    Task.comesTo_map.mpr ⟨_, Task.comesTo_fetchAll.mpr rfl, hfirst.symm⟩, ?_⟩
  rintro ⟨-, none_first⟩
  cases none_first.mpr rfl

end Dataset

end SqlMapper
