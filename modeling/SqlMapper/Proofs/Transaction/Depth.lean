import SqlMapper.Proofs.Transaction.Beside

/-!
# The depth of nesting

A block may give up a nested call that it has made: it waits for something else as well, and that comes
first. The call is then dropped where it stands, with all nested calls inside it. A block is told its depth
by a count that a nested call raises before its own block runs and lowers after it has ended. So a nested
call that does not come back leaves the count one too high, in every block of the transaction and up to its
end.

* `Plan`: blocks whose nested calls may be given up, at any place and by any block around them.
* `Plan.block`: the computation, which notes what the blocks see and which nested calls are lost.
* `Tallied`: the count is that of the nested calls around the block and of the lost ones.
* `tallied_of_runs`: every block keeps it so.
* `seen_depth_eq_inside_iff`: a block is told how many nested calls it runs inside, exactly if no nested
  call was lost before, as long as the count does not run over.
* `outermost_block_sees_one`: the outermost block, after a nested call that it gave up.
-/

namespace SqlMapper.Transaction

variable {α : Type}

/-! ## Blocks that give up nested calls -/

/-- The block of a transaction, or of a nested call. It goes on after each of its parts, however that
    ended; a part that the block gave up ended as `cancelled`. A block that is given up itself, together
    with the part that is in progress, goes on from there with `stop .cancelled`. -/
inductive Plan : Type → Type 1 where
  | value {α : Type} (a : α) : Plan α
  /-- The block ends with an error, or panics, or is given up at this place. -/
  | stop {α : Type} (s : Stop) : Plan α
  | call {α β : Type} (k : Call β) (next : Except Stop β → Plan α) : Plan α
  /-- Something apart from the transaction: waiting, or an operation of the adapter. -/
  | task {α β : Type} (t : Task Program β) (next : Except Stop β → Plan α) : Plan α
  | nested {α β : Type} (body : Plan β) (next : Except Stop β → Plan α) : Plan α

/-- The plan that ends as a part has ended. -/
def Plan.ending : Except Stop α → Plan α
  | .ok a => .value a
  | .error s => .stop s

/-- What is noted of the nesting in a transaction. -/
inductive Moment where
  /-- A block that runs inside so many nested calls is told its depth. -/
  | sees (inside : Nat) (depth : UInt32)
  /-- A nested call ends without a value or an error: it was given up, or it panicked. -/
  | lost
deriving DecidableEq

/-- What is noted of a call by a block that runs inside so many nested calls. -/
def Call.moments (inside : Nat) : {α : Type} → Call α → Except Stop α → List Moment
  | _, .depth, .ok told => [.sees inside told]
  | _, _, _ => []

/-- What is noted of the ending of a nested call. -/
def nestedMoments : Except Stop α → List Moment
  | .ok _ | .error (.failed _) => []
  | .error .panicked | .error .cancelled => [.lost]

/-- Adds to the notes. -/
def note (moments : List Moment) : Block (StateT (List Moment) Program) Unit :=
  lift (ExceptT.lift (modify (· ++ moments)))

/-- The computation of a block that runs inside so many nested calls. It takes notes. -/
def Plan.block : {α : Type} → Nat → Plan α → Block (StateT (List Moment) Program) α
  | _, _, value a => pure a
  | _, _, stop s => throw s
  | _, inside, call k next => do
    let x ← Block.ended k.block
    note (k.moments inside x)
    (next x).block inside
  | _, inside, task t next => do
    let x ← Block.ended (lift t.inState)
    (next x).block inside
  | _, inside, nested body next => do
    let x ← Block.ended (Transaction.nested (body.block (inside + 1)))
    note (nestedMoments x)
    (next x).block inside

/-! ## The tally -/

/-- What a block has been told was the number of nested calls around it, with those that had been lost
    before; and so is the depth of a block that runs inside so many nested calls now. -/
structure Tallied (inside : Nat) (depth : UInt32) (log : List Moment) : Prop where
  depth_eq : depth = .ofNat (inside + log.count .lost)
  seen : ∀ before n told after, log = before ++ .sees n told :: after →
    told = .ofNat (n + before.count .lost)

namespace Tallied

variable {inside : Nat} {depth : UInt32} {log : List Moment}

theorem start : Tallied 0 0 [] := by
  refine ⟨rfl, fun before n told after h => ?_⟩
  obtain ⟨-, hcons⟩ := List.append_eq_nil_iff.mp h.symm
  cases hcons

/-- One more note: what is seen at this moment has to be right. -/
theorem seen_concat (tallied : Tallied inside depth log) {m : Moment}
    (now : ∀ n told, m = .sees n told → told = .ofNat (n + log.count .lost)) {before after : List Moment}
    {n : Nat} {told : UInt32} (h : log ++ [m] = before ++ .sees n told :: after) :
    told = .ofNat (n + before.count .lost) := by
  rcases List.eq_nil_or_concat after with rfl | ⟨after, last, rfl⟩
  · obtain ⟨rfl, hm⟩ := List.append_inj' h rfl
    exact now n told (List.cons.inj hm).1
  · rw [List.concat_eq_append, ← List.cons_append, ← List.append_assoc] at h
    exact tallied.seen before n told after (List.append_inj' h rfl).1

/-- A block asks for its depth. -/
theorem sees (tallied : Tallied inside depth log) : Tallied inside depth (log ++ [.sees inside depth]) where
  depth_eq := by
    rw [List.count_append, List.count_singleton]
    exact tallied.depth_eq
  seen := by
    intro before n told after h
    refine tallied.seen_concat (fun n told hm => ?_) h
    cases hm
    exact tallied.depth_eq

/-- A nested call begins. -/
theorem enter (tallied : Tallied inside depth log) : Tallied (inside + 1) (depth + 1) log where
  depth_eq := by rw [tallied.depth_eq, Nat.add_right_comm, UInt32.ofNat_add _ 1, UInt32.ofNat_one]
  seen := tallied.seen

/-- A nested call comes back. -/
theorem comeBack (tallied : Tallied (inside + 1) depth log) : Tallied inside (depth - 1) log where
  depth_eq := by
    rw [tallied.depth_eq, Nat.add_right_comm, UInt32.ofNat_add _ 1, UInt32.ofNat_one, UInt32.add_sub_cancel]
  seen := tallied.seen

/-- A nested call is lost: the depth is not lowered, and one more call is counted for it. -/
theorem lose (tallied : Tallied (inside + 1) depth log) : Tallied inside depth (log ++ [.lost]) where
  depth_eq := by
    rw [List.count_append, List.count_singleton_self, tallied.depth_eq, Nat.add_assoc,
      Nat.add_comm 1]
  seen := by
    intro before n told after h
    exact tallied.seen_concat (fun n told hm => by cases hm) h

/-- A call through the handle. -/
theorem call (tallied : Tallied inside depth log) {k : Call α} {conn : ConnectionId} {es : List Event}
    {x : Except Stop α} (does : k.Does conn depth es x) : Tallied inside depth (log ++ k.moments inside x) := by
  cases k with
  | depth =>
    obtain ⟨-, rfl⟩ := does
    exact tallied.sees
  | execute | query | fetchAll | listTables => exact (List.append_nil log).symm ▸ tallied

/-- The end of a nested call, of whatever kind. -/
theorem leave (tallied : Tallied (inside + 1) depth log) (x : Except Stop α) :
    Tallied inside (match caught x with
      | .ok _ => depth - 1
      | .error _ => depth) (log ++ nestedMoments x) := by
  rcases x with (e | _ | _) | a
  case ok | error.failed =>
    rw [nestedMoments, List.append_nil]
    exact tallied.comeBack
  case error.panicked | error.cancelled => exact tallied.lose

end Tallied

/-! ## Runs -/

section Runs

variable {h : Handle} {inside : Nat} {depth depth' : UInt32} {log log' : List Moment} {es : List Event}

/-- However a block and its parts end, the tally is kept. -/
theorem tallied_of_runs {plan : Plan α} {r : Except Stop α}
    (ran : ((plan.block inside).beside h depth log).Runs es ((r, depth'), log'))
    (tallied : Tallied inside depth log) : Tallied inside depth' log' := by
  induction plan generalizing inside depth log es depth' log' with
  | value a =>
    obtain ⟨-, heq⟩ := ran
    cases heq
    exact tallied
  | stop s =>
    obtain ⟨-, heq⟩ := ran
    cases heq
    exact tallied
  | call k next ih =>
    obtain ⟨x, depth₁, log₁, es₁, es₂, h₁, h₂, -⟩ := runs_ended_bind_beside.mp ran
    obtain ⟨does, rfl, rfl⟩ := runs_call_beside.mp h₁
    exact ih x h₂ (tallied.call does)
  | task t next ih =>
    obtain ⟨x, depth₁, log₁, es₁, es₂, h₁, h₂, -⟩ := runs_ended_bind_beside.mp ran
    obtain ⟨-, rfl, rfl⟩ := runs_task_beside.mp h₁
    exact ih x h₂ tallied
  | nested body next ihBody ihNext =>
    obtain ⟨x, depth₁, log₁, es₁, es₂, h₁, h₂, -⟩ := runs_ended_bind_beside.mp ran
    obtain ⟨depth₂, hbody, rfl⟩ := runs_nested_beside.mp h₁
    -- one level further in the tally is kept even by a block that is dropped; what that means out here
    -- is for `leave` to say
    have inner := ihBody hbody tallied.enter
    exact ihNext x h₂ (inner.leave x)

/-- A transaction starts at depth 0, and its block keeps the tally. -/
theorem exists_tallied {plan : Plan α} {r : Except Stop α}
    (ran : ((run (plan.block 0)).run.run []).Runs es (r, log)) : ∃ depth, Tallied 0 depth log := by
  rcases runs_run_beside.mp ran with ⟨-, -, -, rfl⟩ | ⟨conn, id, l, own, passage, unchanged, -⟩
  · exact ⟨0, .start⟩
  · cases passage with
    | refused s =>
      obtain rfl := unchanged ⟨s, rfl⟩
      exact ⟨0, .start⟩
    | begun o ran ends =>
      obtain ⟨depth, ran⟩ := ran
      exact ⟨depth, tallied_of_runs ran .start⟩

/-- The events of a transaction on the first connection that commits, with those of its block. -/
def committed (own : List Event) : List Event :=
  let l : Lifecycle := ⟨.ok ⟨0, none⟩, some (.ok ⟨0, none⟩), none⟩
  ⟨.acquire, .ok 1⟩ :: l.uses 1 ⟨0⟩ own ++ [⟨.release 1 false, ()⟩]

theorem runs_committed {plan : Plan α} {own : List Event} {a : α}
    (ran : ((plan.block 0).beside ⟨1, ⟨0⟩⟩ 0 []).Runs own ((.ok a, depth), log)) :
    ((run (plan.block 0)).run.run []).Runs (committed own) (.ok a, log) :=
  runs_run_beside.mpr (.inr ⟨1, ⟨0⟩, _, own, .begun ⟨0, none⟩ ⟨depth, ran⟩ (.committed a ⟨0, none⟩),
    (fun ⟨_, refused⟩ => by cases refused), rfl⟩)

/-! ## What a block is told -/

/-- **The depth that a block is told.** In every transaction, whatever its nested calls come to, it is the
    number of nested calls that the block runs inside and of those that were lost before, in 32 bits. So as
    long as these numbers do not go beyond that, it is the number of the former exactly if no nested call of
    the transaction was lost before. -/
theorem seen_depth_eq_inside_iff {plan : Plan α} {r : Except Stop α}
    (ran : ((run (plan.block 0)).run.run []).Runs es (r, log)) {before after : List Moment}
    (seen : log = before ++ .sees inside depth :: after) :
    depth = .ofNat (inside + before.count .lost) ∧
      (inside + before.count .lost < UInt32.size → (depth.toNat = inside ↔ .lost ∉ before)) := by
  obtain ⟨_, tallied⟩ := exists_tallied ran
  have told : depth = .ofNat (inside + before.count .lost) := tallied.seen before inside depth after seen
  refine ⟨told, fun small => ?_⟩
  rw [← List.count_eq_zero, told, UInt32.toNat_ofNat_of_lt' small]
  exact Nat.add_eq_left

end Runs

/-- A nested call that gives up a nested call of its own. All blocks look at their depth, before that and
    after it. -/
def losesInner : Plan Unit :=
  .nested
    (.call .depth fun _ =>
      .nested (.call .depth fun _ => .stop .cancelled : Plan Unit) fun _ =>
        .call .depth fun _ => .value ())
    fun _ => .call .depth fun _ => .value ()

theorem losesInner_seen_depth :
    ((run (losesInner.block 0)).run.run []).Runs (committed [])
        (.ok (), [.sees 1 1, .sees 2 2, .lost, .sees 1 2, .sees 0 1]) ∧
      (2 : UInt32) = .ofNat (1 + [Moment.sees 1 1, .sees 2 2, .lost].count .lost) ∧
        1 + [Moment.sees 1 1, .sees 2 2, .lost].count .lost < UInt32.size ∧
        ((2 : UInt32).toNat = 1 ↔ .lost ∉ [Moment.sees 1 1, .sees 2 2, .lost]) := by
  have ran : ((run (losesInner.block 0)).run.run []).Runs (committed [])
      (.ok (), [.sees 1 1, .sees 2 2, .lost, .sees 1 2, .sees 0 1]) := runs_committed ⟨rfl, rfl⟩
  have split : [.sees 1 1, .sees 2 2, .lost, .sees 1 2, .sees 0 1] =
    [Moment.sees 1 1, .sees 2 2, .lost] ++ .sees 1 2 :: [.sees 0 1] := rfl
  obtain ⟨told, right⟩ := seen_depth_eq_inside_iff ran split
  have small : 1 + [Moment.sees 1 1, .sees 2 2, .lost].count .lost < UInt32.size := by decide
  exact ⟨ran, told, small, right small⟩

/-- A nested call that is given up while its statement waits for an answer. The block looks at its depth
    after that. -/
def losesWaiting : Plan UInt32 :=
  .nested (.call (.execute "DELETE FROM `posts`") .ending) fun _ => .call .depth .ending

/-- The outermost block is told that its depth is 1 while none of its nested calls is in progress. -/
theorem outermost_block_sees_one :
    ((run (losesWaiting.block 0)).run.run []).Runs
      (committed (Adapter.sending 1 "DELETE FROM `posts`" (.error .cancelled)))
      (.ok 1, [.lost, .sees 0 1]) :=
  runs_committed ⟨(), _, rfl, .error .cancelled, _, rfl, rfl, rfl⟩

end SqlMapper.Transaction
