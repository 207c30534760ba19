import SqlMapper.Proofs.Model.GeneratedKey
import SqlMapper.Proofs.Model.Routine
import SqlMapper.Proofs.Record.OrderedMap

/-!
# Saving an instance

An instance that is not saved is inserted by one statement. If the driver refuses it, its error is the
caller's; else the attributes stay as they are, and only a single key column that was left open takes the
key that the server generated. An instance that is saved is never sent again.

* `StandsFor`: the value that stands for a generated key.
* `Instance.Keeps`: the attributes of a saved instance.
* `Instance.saves`: saving an instance some times over.
* `Instance.keeps_saved`: what a saved instance keeps.
* `Instance.saves_of_persisted`: an instance that is saved is refused as often as it is tried.
* `Instance.save_fresh`: saving, through every executor.
-/

namespace SqlMapper

/-! ## Specification -/

/-- The value that stands for an unsigned number: the same number with a sign, and its decimal digits where
    it is too great for one. -/
inductive StandsFor (id : UInt64) : Value → Prop where
  | number {n : Int64} (same : n.toInt = id.toNat) : StandsFor id (.integer n)
  | digits (great : 2 ^ 63 ≤ id.toNat) : StandsFor id (.text (toString id.toNat))

namespace Instance

/-- The saved instance, after the driver's answer. -/
def saved (i : Instance) (outcome : Outcome) : Instance :=
  ⟨i.entity, withKey i.entity i.values outcome.insertId?, true⟩

/-- The attributes of an instance after an insertion: those before, where a generated key is put in for a
    single key column, at the end if the column was absent and in its place if it was null. -/
inductive Keeps (i : Instance) (outcome : Outcome) : List (String × Value) → Prop where
  | appended {key : KeyColumn} {id : UInt64} {v : Value} (single : i.entity.primaryKey = [key])
    (generated : outcome.insertId? = some id) (stands : StandsFor id v) (absent : key.name ∉ i.values.keys) :
    Keeps i outcome (i.values.pairs ++ [(key.name, v)])
  | replaced {key : KeyColumn} {id : UInt64} {v : Value} {front back : List (String × Value)}
    (single : i.entity.primaryKey = [key]) (generated : outcome.insertId? = some id)
    (stands : StandsFor id v) (null : i.values.pairs = front ++ (key.name, .null) :: back) :
    Keeps i outcome (front ++ (key.name, v) :: back)
  /-- The key is not single, or was set, or none was generated. -/
  | untouched (closed : ∀ key id, i.entity.primaryKey = [key] → outcome.insertId? = some id →
      ∃ v, v ≠ .null ∧ i.values.get? key.name = some v) : Keeps i outcome i.values.pairs

section Repeating

variable {n : Type → Type} [Monad n] [MonadExceptOf Stop n]

/-- Saves an instance some times over, each time what the time before left: the saved instance, or the same
    one after an error. The errors are collected. -/
def saves (x : Executor n) : Nat → Instance → n (Instance × List Error)
  | 0, i => pure (i, [])
  | k + 1, i => do
    match ← tried (i.save x) with
    | .ok j => saves x k j
    | .error e => do
      let (j, es) ← saves x k i
      return (j, e :: es)

end Repeating

end Instance

/-! ## Generated keys -/

theorem standsFor_ofUnsigned (id : UInt64) : StandsFor id (.ofUnsigned id) := by
  unfold Value.ofUnsigned
  split
  · next small => exact .number (Int64.toInt_ofNat_of_lt small)
  · next great =>
    have digits : String.ofList (Number.decimal id.toNat) = toString id.toNat :=
      Nat.toString_eq_ofList_toDigits.symm
    rw [digits]
    exact .digits (Nat.le_of_not_lt great)

theorem StandsFor.unique {id : UInt64} {v w : Value} (hv : StandsFor id v) (hw : StandsFor id w) : v = w := by
  have small {n : Int64} (same : n.toInt = id.toNat) : id.toNat < 2 ^ 63 := by
    have fits := n.toInt_lt
    omega
  cases hv with
  | number same =>
    cases hw with
    | number same' => rw [Int64.toInt_inj.mp (same.trans same'.symm)]
    | digits great => exact absurd (small same) (Nat.not_lt.mpr great)
  | digits great =>
    cases hw with
    | number same => exact absurd (small same) (Nat.not_lt.mpr great)
    | digits _ => rfl

namespace Instance

/-! ## Attributes -/

section Attributes

variable {i : Instance} {outcome : Outcome} {l l' : List (String × Value)}

theorem withKey_of_closed (closed : ∀ key id, i.entity.primaryKey = [key] →
      outcome.insertId? = some id → ∃ v, v ≠ .null ∧ i.values.get? key.name = some v) :
    withKey i.entity i.values outcome.insertId? = i.values := by
  unfold withKey
  split
  · next key id single generated =>
    obtain ⟨v, hv, found⟩ := closed key id single generated
    rw [found]
    cases v with
    | null => exact absurd rfl hv
    | _ => rfl
  · rfl

/-- What a saved instance keeps. -/
theorem keeps_saved (i : Instance) (outcome : Outcome) :
    i.Keeps outcome (i.saved outcome).values.pairs := by
  show i.Keeps outcome (withKey i.entity i.values outcome.insertId?).pairs
  by_cases closed : ∀ key id, i.entity.primaryKey = [key] → outcome.insertId? = some id →
      ∃ v, v ≠ .null ∧ i.values.get? key.name = some v
  · rw [withKey_of_closed closed]
    exact .untouched closed
  · push Not at closed
    obtain ⟨key, id, single, generated, hopen⟩ := closed
    have unset : ∀ v ∈ i.values.get? key.name, v = .null := fun v found =>
      by_contra fun hv => hopen v hv found
    rw [generated, withKey_of_open single unset]
    show i.Keeps outcome (putPair key.name (.ofUnsigned id) i.values.pairs)
    cases found : i.values.get? key.name with
    | none =>
      have absent := Record.get?_eq_none_iff.mp found
      rw [Record.putPair_of_not_mem absent]
      exact .appended single generated (standsFor_ofUnsigned id) absent
    | some v =>
      obtain rfl := unset v found
      obtain ⟨front, back, null, first⟩ := Record.exists_split_of_get? found
      rw [null, Record.putPair_append_cons first]
      exact .replaced single generated (standsFor_ofUnsigned id) null

/-- A key stands in one place. -/
theorem split_unique {r : Record} {key : String} {v : Value} {front back front' back' : List (String × Value)}
    (h : r.pairs = front ++ (key, v) :: back) (h' : r.pairs = front' ++ (key, v) :: back') :
    front = front' ∧ back = back' := by
  have nodup := r.nodup
  rw [h', List.map_append, List.map_cons, List.nodup_middle, List.nodup_cons, ← List.map_append] at nodup
  have once : (key, v) ∉ front' ++ back' := fun mem => nodup.1 (List.mem_map_of_mem mem)
  rw [List.mem_append, not_or] at once
  obtain ⟨fronts, -, backs⟩ := (List.append_cons_inj_of_notMem once.1 once.2).mp (h'.symm.trans h)
  exact ⟨fronts.symm, backs.symm⟩

section Key

variable {key : KeyColumn} {id : UInt64}

/-- A key that was absent is put in at the end. -/
theorem Keeps.of_absent (h : i.Keeps outcome l) (single : i.entity.primaryKey = [key])
    (generated : outcome.insertId? = some id) (absent : i.values.get? key.name = none) :
    ∃ v, StandsFor id v ∧ l = i.values.pairs ++ [(key.name, v)] := by
  cases h with
  | appended single' generated' stands _ =>
    obtain rfl := (List.cons.inj (single.symm.trans single')).1
    obtain rfl := Option.some.inj (generated.symm.trans generated')
    exact ⟨_, stands, rfl⟩
  | replaced single' _ _ null =>
    obtain rfl := (List.cons.inj (single.symm.trans single')).1
    have found := Record.get?_of_mem (null ▸ List.mem_append_cons_self)
    rw [absent] at found
    cases found
  | untouched closed =>
    obtain ⟨v, -, found⟩ := closed key id single generated
    rw [absent] at found
    cases found

/-- A key that was null is put in there. -/
theorem Keeps.of_null (h : i.Keeps outcome l) (single : i.entity.primaryKey = [key])
    (generated : outcome.insertId? = some id) {front back : List (String × Value)}
    (null : i.values.pairs = front ++ (key.name, .null) :: back) :
    ∃ v, StandsFor id v ∧ l = front ++ (key.name, v) :: back := by
  have found : i.values.get? key.name = some .null :=
    Record.get?_of_mem (null ▸ List.mem_append_cons_self)
  cases h with
  | appended single' _ _ absent =>
    obtain rfl := (List.cons.inj (single.symm.trans single')).1
    rw [Record.get?_eq_none_iff.mpr absent] at found
    cases found
  | replaced single' generated' stands null' =>
    obtain rfl := (List.cons.inj (single.symm.trans single')).1
    obtain rfl := Option.some.inj (generated.symm.trans generated')
    obtain ⟨rfl, rfl⟩ := split_unique null null'
    exact ⟨_, stands, rfl⟩
  | untouched closed =>
    obtain ⟨v, set, value⟩ := closed key id single generated
    rw [found] at value
    cases value
    exact absurd rfl set

end Key

end Attributes

/-! ## Saving again -/

section Again

variable {i : Instance} {k : Nat}

/-- An instance that is refused is refused as often as it is tried. -/
theorem saves_of_refused {n : Type → Type} [Monad n] [LawfulMonad n] [MonadExceptOf Stop n]
    {x : Executor n} {e : Error} (refused : tried (i.save x) = pure (.error e)) :
    saves x k i = pure (i, List.replicate k e) := by
  induction k with
  | zero => rfl
  | succ k ih =>
    rw [saves, refused, pure_bind]
    show (saves x k i >>= fun r => pure (r.1, e :: r.2)) = _
    rw [ih, pure_bind]
    rfl

/-- An instance that is saved is never sent again, in any surroundings where a thrown error ends what it is
    thrown in, and is found when that is tried. -/
theorem saves_of_persisted {n : Type → Type} [Monad n] [LawfulMonad n] [MonadExceptOf Stop n]
    (thrown : ∀ (e : Error) (f : PUnit → n Instance),
      tried ((throw (.failed e) : n PUnit) >>= f) = pure (.error e))
    (x : Executor n) (h : i.persisted = true) :
    saves x k i = pure (i, List.replicate k (.alreadySaved i.entity.name)) := by
  refine saves_of_refused ?_
  unfold save
  rw [if_pos h]
  exact thrown _ _

end Again

/-! ## Saving -/

section Saving

variable {i : Instance} {es : List Event} {r : Except Stop Instance}

/-- Through an adapter: nothing is sent without a connection, and one statement on one. -/
theorem runs_save_adapter (h : i.persisted = false) :
    (i.save Executor.adapter : Task Program Instance).run.Runs es r ↔
      (∃ s, es = [⟨.acquire, .error s⟩] ∧ r = .error s) ∨
        ∃ conn answer, r = answer.map i.saved ∧ es = ⟨.acquire, .ok conn⟩ ::
          Adapter.sending conn (Adapter.dialect.insertSql i.entity.table i.values) answer ++
          [⟨.release conn false, ()⟩] := by
  have mapped : (i.save Executor.adapter : Task Program Instance) =
      Adapter.execute (Adapter.dialect.insertSql i.entity.table i.values) >>= fun outcome =>
        pure (i.saved outcome) := save_eq _ h
  rw [mapped, Task.runs_map]
  simp only [Adapter.runs_execute]
  constructor
  · rintro ⟨answer, ⟨s, rfl, rfl⟩ | ⟨conn, rfl⟩, rfl⟩
    · exact .inl ⟨s, rfl, rfl⟩
    · exact .inr ⟨conn, answer, rfl, rfl⟩
  · rintro (⟨s, rfl, rfl⟩ | ⟨conn, answer, rfl, rfl⟩)
    · exact ⟨.error s, .inl ⟨s, rfl, rfl⟩, rfl⟩
    · exact ⟨answer, .inr ⟨conn, rfl⟩, rfl⟩

/-- Through an open transaction: one statement on its connection. -/
theorem runs_save_transaction (h : i.persisted = false) {handle : Transaction.Handle}
    {depth depth' : UInt32} :
    ((i.save Executor.transaction).on handle depth).Runs es (r, depth') ↔
      depth' = depth ∧ ∃ answer, r = answer.map i.saved ∧
        es = Adapter.sending handle.conn (Adapter.dialect.insertSql i.entity.table i.values) answer := by
  have mapped : (i.save Executor.transaction : Transaction.Block Program Instance) =
      Transaction.execute (Adapter.dialect.insertSql i.entity.table i.values) >>= fun outcome =>
        pure (i.saved outcome) := save_eq _ h
  rw [mapped, Transaction.runs_map_on]
  simp only [Transaction.runs_execute_on]
  constructor
  · rintro ⟨answer, ⟨rfl, rfl⟩, rfl⟩
    exact ⟨rfl, answer, rfl, rfl⟩
  · rintro ⟨rfl, answer, rfl, rfl⟩
    exact ⟨answer, ⟨rfl, rfl⟩, rfl⟩

/-- **Saving inserts once.** For every entity type and every record of attributes:

    * through any executor, in any surroundings, saving an instance is one statement, which inserts the
      attributes as they are, with the saved instance as its result;
    * so an adapter that gets a connection sends this statement on it and nothing else, and an open
      transaction sends it on its connection; an error of the driver is the error of the caller, and so is
      one of the pool, after which nothing is sent;
    * the saved instance has the same type and the same attributes, each in its place, but for a single key
      column that was absent or null, which has the key that the server generated;
    * saving it again, any number of times and through any executor, asks for nothing, and fails each time
      as an input that is not valid. -/
theorem save_fresh (entity : EntityType) (values : Record) :
    let i := fresh entity values
    let sql := Adapter.dialect.insertSql entity.table values
    (∀ {m : Type → Type} [Monad m] [MonadExceptOf Stop m] (x : Executor m),
      i.save x = x.execute sql >>= fun outcome => pure (i.saved outcome)) ∧
    (∀ es r, (i.save Executor.adapter : Task Program Instance).run.Runs es r ↔
      (∃ s, es = [⟨.acquire, .error s⟩] ∧ r = .error s) ∨
        ∃ conn answer, r = answer.map i.saved ∧
          es = ⟨.acquire, .ok conn⟩ :: Adapter.sending conn sql answer ++ [⟨.release conn false, ()⟩]) ∧
    (∀ handle depth es r depth', ((i.save Executor.transaction).on handle depth).Runs es (r, depth') ↔
      depth' = depth ∧ ∃ answer, r = answer.map i.saved ∧
        es = Adapter.sending handle.conn sql answer) ∧
    ∀ outcome,
      let j := i.saved outcome
      let refused : Error := .invalidInput (entity.name ++ " instance is already saved")
      j.entity = entity ∧ i.Keeps outcome j.values.pairs ∧
      (∀ (x : Executor (Task Program)) k, saves x k j = pure (j, List.replicate k refused)) ∧
      ∀ (x : Executor (Transaction.Block Program)) k,
        saves x k j = pure (j, List.replicate k refused) := by
  intro i sql
  refine ⟨fun x => save_eq x rfl, fun _ _ => runs_save_adapter rfl,
    fun _ _ _ _ _ => runs_save_transaction rfl, ?_⟩
  intro outcome j refused
  exact ⟨rfl, keeps_saved i outcome, fun x _ => saves_of_persisted (fun _ _ => rfl) x rfl,
    fun x _ => saves_of_persisted (fun _ _ => rfl) x rfl⟩

/-- A post without a key as yet. -/
def unkeyed : Record := .ofList [("title", .text "Hello"), ("comments", .integer 0)]

/-- The same with a null key between its title and its comments. -/
def nullKeyed : Record := .ofList [("title", .text "Hello"), ("id", .null), ("comments", .integer 0)]

/-- A generated key that fits a signed number is put in the place of a null key, and the greatest one, as text,
    at the end of a record that has no key. The null was sent. To save either again is an error. -/
theorem save_fresh_openKeys :
    let post (values : Record) := fresh (.ofTable "Post" "posts") values
    let refused : Error := .invalidInput "Post instance is already saved"
    (∃ saved, ((post nullKeyed).save Executor.adapter : Task Program Instance).run.Runs
        (⟨.acquire, .ok 1⟩ ::
          Adapter.sending 1 "INSERT INTO `posts` (`title`, `id`, `comments`) VALUES ('Hello', NULL, 0)"
            (.ok ⟨1, some 7⟩) ++ [⟨.release 1 false, ()⟩]) (.ok saved) ∧
      saved.values.pairs = [("title", .text "Hello"), ("id", .integer 7), ("comments", .integer 0)] ∧
      ∀ (x : Executor (Task Program)), saves x 2 saved = pure (saved, [refused, refused])) ∧
    ∃ saved, (post unkeyed).save (.answering ⟨1, some 18446744073709551615⟩) = .ok saved ∧
      saved.values.pairs = [("title", .text "Hello"), ("comments", .integer 0),
        ("id", .text "18446744073709551615")] := by
  intro post refused
  constructor
  · obtain ⟨-, adapter, -, keeps⟩ := save_fresh (.ofTable "Post" "posts") nullKeyed
    obtain ⟨-, kept, again, -⟩ := keeps ⟨1, some 7⟩
    have sql : Adapter.dialect.insertSql "posts" nullKeyed =
      "INSERT INTO `posts` (`title`, `id`, `comments`) VALUES ('Hello', NULL, 0)" := by decide
    refine ⟨_, (adapter _ _).mpr (.inr ⟨1, .ok ⟨1, some 7⟩, rfl, ?_⟩), ?_, fun x => again x 2⟩
    · rw [← sql]
      rfl
    have null : (post nullKeyed).values.pairs =
      [("title", .text "Hello")] ++ ("id", .null) :: [("comments", .integer 0)] := rfl
    obtain ⟨v, stands, pairs⟩ := kept.of_null rfl rfl null
    obtain rfl : v = .integer 7 := stands.unique (.number (by decide))
    exact pairs
  · obtain ⟨sends, -, -, keeps⟩ := save_fresh (.ofTable "Post" "posts") unkeyed
    obtain ⟨-, kept, -⟩ := keeps ⟨1, some 18446744073709551615⟩
    refine ⟨_, sends _, ?_⟩
    obtain ⟨v, stands, pairs⟩ := kept.of_absent rfl rfl (by decide)
    obtain rfl : v = .text "18446744073709551615" := stands.unique (.digits (by decide))
    exact pairs

end Saving

end Instance

end SqlMapper
