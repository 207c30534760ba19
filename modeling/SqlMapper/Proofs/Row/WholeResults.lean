import SqlMapper.Proofs.Row.Decoder

/-!
# All rows of a result

A result may be read as a whole: its records as a list, or each given to a callback that may refuse it. Both
agree with calls of `next`, one after the other, up to the end or the first error, and make the fetches of
these calls alone.

* `Gives`: what `next` gives, call after call.
* `Accepts`: the records that a callback takes.
* `collect_of_gives`, `forEach_of_accepts`, `forEach_of_refused`: a result as a whole.
* `collect_forEach_agree`: every decoder, stream and callback.
-/

namespace SqlMapper.Decoder

variable {d : Decoder} {s : RowStream} {r : Record} {rs : List Record} {stop : Except Error Unit}

/-! ## Specification -/

/-- What `next` gives, call after call: the records `rs`, and then the end or an error. -/
def Gives (d : Decoder) (s : RowStream) (rs : List Record) (stop : Except Error Unit) : Prop :=
  (d.answers (rs.length + 1) s).map Prod.fst =
    rs.map (fun r => .ok (some r)) ++ [stop.map fun _ => none]

/-- What is left of a stream after `k` calls of `next`. -/
def leftAfter (d : Decoder) (s : RowStream) (k : Nat) : RowStream := (afterCalls d s k).2

/-- A callback takes records one after the other, which leads from one state to another. -/
inductive Accepts {σ : Type} (onRow : σ → Record → σ × Except Error Unit) : σ → List Record → σ → Prop
  | nil (state : σ) : Accepts onRow state [] state
  | cons {state mid last : σ} {r : Record} {rs : List Record} (head : onRow state r = (mid, .ok ()))
    (tail : Accepts onRow mid rs last) : Accepts onRow state (r :: rs) last

/-! ## Calls of `next` -/

theorem afterCalls_succ (d : Decoder) (s : RowStream) (k : Nat) :
    afterCalls d s (k + 1) = afterCalls (d.next s).2.1 (d.next s).2.2 k := by
  induction k with
  | zero => rfl
  | succ k ih => rw [afterCalls, ih, afterCalls]

theorem leftAfter_succ (d : Decoder) (s : RowStream) (k : Nat) :
    leftAfter d s (k + 1) = leftAfter (d.next s).2.1 (d.next s).2.2 k := by
  rw [leftAfter, afterCalls_succ, leftAfter]

theorem gives_nil_iff : Gives d s [] stop ↔ (d.next s).1 = stop.map fun _ => none := by
  simp [Gives, answers]

theorem gives_cons_iff : Gives d s (r :: rs) stop ↔
    (d.next s).1 = .ok (some r) ∧ Gives (d.next s).2.1 (d.next s).2.2 rs stop := by
  simp only [Gives, answers, List.length_cons, List.map_cons, List.cons_append, List.cons.injEq]

/-- Until a decoder has finished, a call takes the next fetch. -/
theorem next_cons (h : d.finished = false) (f : Fetch) (s : RowStream) :
    d.next (f :: s) = ((d.take f).1, (d.take f).2, s) := by
  rw [next.eq_def, h]
  rfl

/-- Sooner or later the end comes or an error. -/
theorem exists_gives (d : Decoder) (s : RowStream) : ∃ rs stop, Gives d s rs stop := by
  induction s generalizing d with
  | nil =>
    refine ⟨[], .ok (), gives_nil_iff.mpr ?_⟩
    rw [next.eq_def]
    split <;> rfl
  | cons f s ih =>
    cases hd : d.finished with
    | true => exact ⟨[], .ok (), gives_nil_iff.mpr (by rw [next_of_finished hd]; rfl)⟩
    | false =>
      have hnext := next_cons hd f s
      rcases htake : d.take f with ⟨e | _ | r, d'⟩
      · exact ⟨[], .error e, gives_nil_iff.mpr (by rw [hnext, htake]; rfl)⟩
      · exact ⟨[], .ok (), gives_nil_iff.mpr (by rw [hnext, htake]; rfl)⟩
      · obtain ⟨rs, stop, h⟩ := ih d'
        refine ⟨r :: rs, stop, gives_cons_iff.mpr ?_⟩
        rw [hnext, htake]
        exact ⟨rfl, h⟩

/-! ## Records as a list -/

/-- The list of all records, by its first record. -/
theorem collect_eq (d : Decoder) (s : RowStream) : d.collect s =
    match d.next s with
    | (.error e, _, rest) => (.error e, rest)
    | (.ok none, _, rest) => (.ok [], rest)
    | (.ok (some r), d, rest) => ((d.collect rest).1.map (r :: ·), (d.collect rest).2) := by
  cases hd : d.finished with
  | true => rw [next_of_finished hd, collect.eq_def, if_pos hd]
  | false =>
    have unfinished : ¬d.finished = true := by simp [hd]
    cases s with
    | nil => rw [collect.eq_def, next.eq_def, if_neg unfinished, if_neg unfinished]
    | cons f s =>
      rw [next_cons hd, collect.eq_def, if_neg unfinished]
      rcases htake : d.take f with ⟨e | _ | r, d'⟩ <;> simp only [htake]

/-- Without a record, the end or the error is the answer. -/
theorem collect_of_end (hnext : (d.next s).1 = stop.map fun _ => none) :
    d.collect s = (stop.map fun _ => [], (d.next s).2.2) := by
  rw [collect_eq]
  rcases hcall : d.next s with ⟨x, d', rest⟩
  rw [hcall] at hnext
  subst hnext
  cases stop <;> rfl

theorem collect_of_head (hnext : (d.next s).1 = .ok (some r)) : d.collect s =
    (((d.next s).2.1.collect (d.next s).2.2).1.map (r :: ·),
      ((d.next s).2.1.collect (d.next s).2.2).2) := by
  rw [collect_eq]
  rcases hcall : d.next s with ⟨x, d', rest⟩
  rw [hcall] at hnext
  subst hnext
  rfl

/-- All records as a list are those that `next` gives. -/
theorem collect_of_gives (h : Gives d s rs stop) :
    d.collect s = (stop.map fun _ => rs, leftAfter d s (rs.length + 1)) := by
  induction rs generalizing d s with
  | nil => exact collect_of_end (gives_nil_iff.mp h)
  | cons r rs ih =>
    obtain ⟨hnext, hrest⟩ := gives_cons_iff.mp h
    rw [collect_of_head hnext, ih hrest, List.length_cons, leftAfter_succ d s]
    cases stop <;> rfl

/-! ## Records for a callback -/

section Callback

variable {σ : Type} {onRow : σ → Record → σ × Except Error Unit} {state mid last : σ} {e : Error}

/-- Giving all records to a callback, by the first one. -/
theorem forEach_eq (onRow : σ → Record → σ × Except Error Unit) (d : Decoder) (state : σ)
    (s : RowStream) : forEach onRow d state s =
    match d.next s with
    | (.error e, _, rest) => ((state, .error e), rest)
    | (.ok none, _, rest) => ((state, .ok 0), rest)
    | (.ok (some r), d, rest) =>
      match onRow state r with
      | (mid, .error e) => ((mid, .error e), rest)
      | (mid, .ok ()) =>
        let ((last, count), left) := forEach onRow d mid rest
        ((last, count.map (· + 1)), left) := by
  cases hd : d.finished with
  | true => rw [next_of_finished hd, forEach.eq_def, if_pos hd]
  | false =>
    have unfinished : ¬d.finished = true := by simp [hd]
    cases s with
    | nil => rw [forEach.eq_def, next.eq_def, if_neg unfinished, if_neg unfinished]
    | cons f s =>
      rw [next_cons hd, forEach.eq_def, if_neg unfinished]
      rcases htake : d.take f with ⟨e | _ | r, d'⟩
      · simp only [htake]
      · simp only [htake]
      · rcases hrow : onRow state r with ⟨mid, e | _⟩ <;> simp only [htake, hrow]

/-- Without a record, a callback gets none. -/
theorem forEach_of_end (hnext : (d.next s).1 = stop.map fun _ => none) :
    forEach onRow d state s = ((state, stop.map fun _ => 0), (d.next s).2.2) := by
  rw [forEach_eq]
  rcases hcall : d.next s with ⟨x, d', rest⟩
  rw [hcall] at hnext
  subst hnext
  cases stop <;> rfl

/-- A callback gets the first record that `next` gives, and then the others, if it takes it. -/
theorem forEach_of_head (hnext : (d.next s).1 = .ok (some r)) (head : onRow state r = (mid, .ok ())) :
    forEach onRow d state s =
      (((forEach onRow (d.next s).2.1 mid (d.next s).2.2).1.1,
        (forEach onRow (d.next s).2.1 mid (d.next s).2.2).1.2.map (· + 1)),
        (forEach onRow (d.next s).2.1 mid (d.next s).2.2).2) := by
  rw [forEach_eq]
  rcases hcall : d.next s with ⟨x, d', rest⟩
  rw [hcall] at hnext
  subst hnext
  simp only [head]

/-- It gets none after that, if it does not. -/
theorem forEach_of_refusal (hnext : (d.next s).1 = .ok (some r))
    (refused : onRow state r = (last, .error e)) :
    forEach onRow d state s = ((last, .error e), (d.next s).2.2) := by
  rw [forEach_eq]
  rcases hcall : d.next s with ⟨x, d', rest⟩
  rw [hcall] at hnext
  subst hnext
  simp only [refused]

/-- A callback that takes every record gets those that `next` gives. -/
theorem forEach_of_accepts (h : Gives d s rs stop) (accepts : Accepts onRow state rs last) :
    forEach onRow d state s =
      ((last, stop.map fun _ => rs.length), leftAfter d s (rs.length + 1)) := by
  induction accepts generalizing d s with
  | nil state => exact forEach_of_end (gives_nil_iff.mp h)
  | cons head tail ih =>
    obtain ⟨hnext, hrest⟩ := gives_cons_iff.mp h
    rw [forEach_of_head hnext head, ih hrest, List.length_cons, leftAfter_succ d s]
    cases stop <;> rfl

/-- A callback that refuses a record gets no other, and no row is fetched after it. -/
theorem forEach_of_refused {before after : List Record} (h : Gives d s (before ++ r :: after) stop)
    (accepts : Accepts onRow state before mid) (refused : onRow mid r = (last, .error e)) :
    forEach onRow d state s = ((last, .error e), leftAfter d s (before.length + 1)) := by
  induction accepts generalizing d s with
  | nil state => exact forEach_of_refusal (gives_cons_iff.mp h).1 refused
  | cons head tail ih =>
    obtain ⟨hnext, hrest⟩ := gives_cons_iff.mp h
    rw [forEach_of_head hnext head, ih hrest refused, List.length_cons, leftAfter_succ d s]
    rfl

/-- Either a callback takes all records, or there is a first one that it refuses. -/
theorem accepts_or_refuses (onRow : σ → Record → σ × Except Error Unit) (state : σ)
    (rs : List Record) : (∃ last, Accepts onRow state rs last) ∨
      ∃ before r after mid last e, rs = before ++ r :: after ∧ Accepts onRow state before mid ∧
        onRow mid r = (last, .error e) := by
  induction rs generalizing state with
  | nil => exact .inl ⟨state, .nil state⟩
  | cons r rs ih =>
    rcases hrow : onRow state r with ⟨mid, e | _⟩
    · exact .inr ⟨[], r, rs, state, mid, e, rfl, .nil state, hrow⟩
    · rcases ih mid with ⟨last, accepts⟩ | ⟨before, r', after, mid', last, e, rfl, accepts, refused⟩
      · exact .inl ⟨last, .cons hrow accepts⟩
      · exact .inr ⟨r :: before, r', after, mid', last, e, rfl, .cons hrow accepts, refused⟩

end Callback

/-- A callback that appends every record to a list. -/
def collecting (seen : List Record) (r : Record) : List Record × Except Error Unit := (seen ++ [r], .ok ())

theorem accepts_collecting (seen rs : List Record) : Accepts collecting seen rs (seen ++ rs) := by
  induction rs generalizing seen with
  | nil =>
    rw [List.append_nil]
    exact .nil seen
  | cons r rs ih =>
    have tail := ih (seen ++ [r])
    rw [List.append_assoc] at tail
    exact .cons rfl tail

/-- **A result as a whole.** Whatever the fetches bring, `next`, called again and again, gives some records
    and then the end or an error.

    * As a list, the result is those records, or that error and no record.
    * A callback that takes them all gets them in order, each once; the answer is their number, or that
      error.
    * A callback that refuses one of them gets those before it and no other; the answer is its error, and
      after the fetch of that row there is none.
    * A callback that appends each record to a list has seen those records in the end, also when an error
      came after them. -/
theorem collect_forEach_agree (d : Decoder) (s : RowStream) : ∃ rs stop, Gives d s rs stop ∧
    d.collect s = (stop.map fun _ => rs, leftAfter d s (rs.length + 1)) ∧
    (∀ (σ : Type) (onRow : σ → Record → σ × Except Error Unit) (state : σ),
      (∃ last, Accepts onRow state rs last ∧ forEach onRow d state s =
        ((last, stop.map fun _ => rs.length), leftAfter d s (rs.length + 1))) ∨
      ∃ before r after mid last e, rs = before ++ r :: after ∧ Accepts onRow state before mid ∧
        onRow mid r = (last, .error e) ∧ forEach onRow d state s =
          ((last, .error e), leftAfter d s (before.length + 1))) ∧
    forEach collecting d [] s = ((rs, stop.map fun _ => rs.length), leftAfter d s (rs.length + 1)) := by
  obtain ⟨rs, stop, h⟩ := exists_gives d s
  refine ⟨rs, stop, h, collect_of_gives h, ?_, forEach_of_accepts h (accepts_collecting [] rs)⟩
  intro σ onRow state
  rcases accepts_or_refuses onRow state rs with
    ⟨last, accepts⟩ | ⟨before, r, after, mid, last, e, rfl, accepts, refused⟩
  · exact .inl ⟨last, accepts, forEach_of_accepts h accepts⟩
  · exact .inr ⟨before, r, after, mid, last, e, rfl, accepts, refused,
      forEach_of_refused h accepts refused⟩

end SqlMapper.Decoder
