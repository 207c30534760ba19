import Mathlib.Data.List.Forall2
import SqlMapper.Row.Decoder

/-!
# Rows one after the other

What a decoder yields for every script of fetches, call by call. As long as the result has not ended each
call makes one fetch, and what it yields depends on that fetch and the columns alone, whatever the rows
before it were like; after the end nothing is fetched.

* `Yields`: what a fetch yields when the columns are known.
* `reported`, `columnsAfter`: the columns that come with a fetch, and those known after some fetches.
* `next_afterCalls`: every call of `next`.
-/

namespace SqlMapper.Decoder

/-! ## Specification -/

/-- The entry that a value makes in a record: under the key of its column, converted. -/
def Fits (qualified : Bool) (p : Column × Option Bytes) (entry : String × Value) : Prop :=
  p.1.key qualified = entry.1 ∧ coerce p.2 p.1.typeCode = .ok entry.2

/-- A value that does not convert. -/
def Unfit (p : Column × Option Bytes) : Prop := ∃ cause, coerce p.2 p.1.typeCode = .error cause

/-- What is yielded for the answer of one fetch. A row of the wrong width is an error, and so is one with
    an unfit value, of which the leftmost is named. Any other row yields the entries of its values in the
    order of the columns. -/
inductive Yields (qualified : Bool) (columns : List Column) :
    Except Error (Option RawRow) → Except Error (Option Record) → Prop
  | failed (e : Error) : Yields qualified columns (.error e) (.error e)
  | ended : Yields qualified columns (.ok none) (.ok none)
  | width {row : RawRow} (h : row.length ≠ columns.length) :
    Yields qualified columns (.ok (some row)) (.error (.rowWidth row.length columns.length))
  | unfit {row : RawRow} {before rest : List (Column × Option Bytes)} {c : Column}
    {raw : Option Bytes} {cause : CoercionError} (h : row.length = columns.length)
    (split : columns.zip row = before ++ (c, raw) :: rest) (fit : ∀ p ∈ before, ¬Unfit p)
    (fails : coerce raw c.typeCode = .error cause) :
    Yields qualified columns (.ok (some row)) (.error
      (.coercion c.name c.typeCode (Bytes.decodeLossy (raw.getD [])) cause.message))
  | record {row : RawRow} {entries : List (String × Value)} (h : row.length = columns.length)
    (fit : List.Forall₂ (Fits qualified) (columns.zip row) entries) :
    Yields qualified columns (.ok (some row)) (.ok (some (Record.ofList entries)))

/-- The fetch with a number. After those of the script comes the end. -/
def fetchAt (s : RowStream) (k : Nat) : Fetch := s[k]?.getD ⟨.ok none, []⟩

/-- The columns that come with a fetch: none unless it brings a row. They are the fields that are reported
    with it, by name, table and type code, each in its place. -/
def reported (f : Fetch) : List Column :=
  match f.answer with
  | .ok (some _) => f.fields.mapIdx fun place field =>
    { name := field.name, table? := field.table?, index := place, typeCode := field.typeCode }
  | _ => []

/-- The columns that are known after `k` fetches: those of the first row that came with any. -/
def columnsAfter (s : RowStream) (k : Nat) : List Column :=
  (((s.take k).map reported).find? (· ≠ [])).getD []

/-- Whether one of the first `k` fetches brings the end. -/
def EndsWithin (s : RowStream) (k : Nat) : Prop := ∃ i < k, (fetchAt s i).answer = .ok none

/-- The decoder and the rest of the stream after `k` calls of `next`. -/
def afterCalls (d : Decoder) (s : RowStream) : Nat → Decoder × RowStream
  | 0 => (d, s)
  | k + 1 => ((afterCalls d s k).1.next (afterCalls d s k).2).2

/-! ## One row -/

section Row

variable {qualified : Bool} {columns : List Column} {row : RawRow} {r : Record}
  {x : Except Error (Option Record)}

theorem fill_eq_ok {entries : List (String × Value)}
    (fit : List.Forall₂ (Fits qualified) (columns.zip row) entries) :
    fill qualified r columns row = .ok (entries.foldl (fun r p => r.insert p.1 p.2) r) := by
  induction columns generalizing r row entries with
  | nil => cases fit; rfl
  | cons c columns ih =>
    cases row with
    | nil => cases fit; rfl
    | cons raw row =>
      rw [List.zip_cons_cons] at fit
      cases fit with
      | cons head tail =>
        obtain ⟨hkey, hvalue⟩ := head
        rw [fill, hvalue, List.foldl_cons, ← hkey]
        exact ih tail

theorem fill_eq_error {before rest : List (Column × Option Bytes)} {c : Column}
    {raw : Option Bytes} {cause : CoercionError}
    (split : columns.zip row = before ++ (c, raw) :: rest) (fit : ∀ p ∈ before, ¬Unfit p)
    (fails : coerce raw c.typeCode = .error cause) :
    fill qualified r columns row = .error (coercionError c raw cause) := by
  induction columns generalizing r row before with
  | nil => simp at split
  | cons c' columns ih =>
    cases row with
    | nil => simp at split
    | cons raw' row =>
      rw [List.zip_cons_cons] at split
      cases before with
      | nil =>
        cases split
        rw [fill, fails]
      | cons p before =>
        obtain ⟨rfl, htail⟩ := List.cons_eq_cons.mp split
        obtain ⟨hp, fit⟩ := List.forall_mem_cons.mp fit
        cases hvalue : coerce raw' c'.typeCode with
        | error e => exact absurd ⟨e, hvalue⟩ hp
        | ok value =>
          rw [fill, hvalue]
          exact ih htail fit

/-- Either all values of a row convert, or there is a leftmost one that does not. -/
theorem fits_or_unfit (qualified : Bool) (l : List (Column × Option Bytes)) :
    (∃ entries, List.Forall₂ (Fits qualified) l entries) ∨
      ∃ before c raw rest cause, l = before ++ (c, raw) :: rest ∧ (∀ p ∈ before, ¬Unfit p) ∧
        coerce raw c.typeCode = .error cause := by
  induction l with
  | nil => exact .inl ⟨[], .nil⟩
  | cons p l ih =>
    obtain ⟨c, raw⟩ := p
    cases hvalue : coerce raw c.typeCode with
    | error cause => exact .inr ⟨[], c, raw, l, cause, rfl, List.forall_mem_nil _, hvalue⟩
    | ok value =>
      rcases ih with ⟨entries, fit⟩ | ⟨before, c', raw', rest, cause, rfl, fit, fails⟩
      · exact .inl ⟨(c.key qualified, value) :: entries, .cons ⟨rfl, hvalue⟩ fit⟩
      · refine .inr ⟨(c, raw) :: before, c', raw', rest, cause, rfl, ?_, fails⟩
        refine List.forall_mem_cons.mpr ⟨?_, fit⟩
        rintro ⟨e, he⟩
        rw [hvalue] at he
        cases he

theorem record_eq_of_yields (h : Yields qualified columns (.ok (some row)) x) :
    (record qualified columns row).map some = x := by
  cases h with
  | width h => rw [record, if_neg h]; rfl
  | unfit h split fit fails => rw [record, if_pos h, fill_eq_error split fit fails]; rfl
  | record h fit => rw [record, if_pos h, fill_eq_ok fit]; rfl

end Row

/-! ## One call -/

section Call

variable {d : Decoder} {f : Fetch} {s : RowStream} {x y : Except Error (Option Record)}

theorem exists_yields (qualified : Bool) (columns : List Column)
    (answer : Except Error (Option RawRow)) : ∃ x, Yields qualified columns answer x := by
  match answer with
  | .error e => exact ⟨_, .failed e⟩
  | .ok none => exact ⟨_, .ended⟩
  | .ok (some row) =>
    by_cases h : row.length = columns.length
    · rcases fits_or_unfit qualified (columns.zip row) with
        ⟨entries, fit⟩ | ⟨before, c, raw, rest, cause, split, fit, fails⟩
      · exact ⟨_, .record h fit⟩
      · exact ⟨_, .unfit h split fit fails⟩
    · exact ⟨_, .width h⟩

theorem Yields.unique {qualified : Bool} {columns : List Column}
    {answer : Except Error (Option RawRow)} (hx : Yields qualified columns answer x)
    (hy : Yields qualified columns answer y) : x = y := by
  match answer with
  | .error e => cases hx; cases hy; rfl
  | .ok none => cases hx; cases hy; rfl
  | .ok (some row) => exact (record_eq_of_yields hx).symm.trans (record_eq_of_yields hy)

theorem ofFields_eq_mapIdx (index : Nat) (fields : List Field) : Column.ofFields index fields =
    fields.mapIdx fun place field => ⟨field.name, field.table?, index + place, field.typeCode⟩ := by
  induction fields generalizing index with
  | nil => rfl
  | cons f fields ih =>
    rw [Column.ofFields, ih, List.mapIdx_cons]
    simp only [Nat.add_right_comm, Nat.add_assoc, Nat.add_zero]

theorem reported_of_row (row : RawRow) (fields : List Field) :
    reported ⟨.ok (some row), fields⟩ = Column.ofFields 0 fields := by
  rw [ofFields_eq_mapIdx]
  simp only [Nat.zero_add]
  rfl

/-- The known columns after one more fetch: they are kept once there are any. -/
def extend (columns : List Column) (f : Fetch) : List Column :=
  if columns = [] then reported f else columns

theorem extend_of_no_row (columns : List Column) (h : reported f = []) :
    extend columns f = columns := by
  unfold extend
  split
  · next hc => rw [h, hc]
  · rfl

/-- The answer of a fetch and the columns decide what is yielded. -/
theorem take_eq_of_yields (h : Yields d.qualified (extend d.columns f) f.answer x) :
    d.take f =
      (x, ⟨d.qualified, extend d.columns f, d.finished || decide (f.answer = .ok none)⟩) := by
  obtain ⟨answer, fields⟩ := f
  match answer with
  | .error e =>
    cases h
    rw [extend_of_no_row _ rfl]
    simp [take]
  | .ok none =>
    cases h
    rw [extend_of_no_row _ rfl]
    simp [take]
  | .ok (some row) =>
    have hload : (if d.columns.isEmpty then { d with columns := Column.ofFields 0 fields } else d) =
        ⟨d.qualified, extend d.columns ⟨.ok (some row), fields⟩, d.finished⟩ := by
      by_cases hc : d.columns = [] <;> simp [extend, reported_of_row, hc]
    simp only [take, hload, record_eq_of_yields h]
    simp

theorem next_of_finished (h : d.finished = true) : d.next s = (.ok none, d, s) := by
  rw [next.eq_def, if_pos h]

/-- Until a decoder has finished, a call makes one fetch. -/
theorem next_eq_of_yields (h : d.finished = false)
    (hx : Yields d.qualified (extend d.columns (fetchAt s 0)) (fetchAt s 0).answer x) :
    d.next s = (x, ⟨d.qualified, extend d.columns (fetchAt s 0),
      decide ((fetchAt s 0).answer = .ok none)⟩, s.drop 1) := by
  have hd : ¬d.finished = true := by simp [h]
  rw [next.eq_def, if_neg hd]
  cases s with
  | nil =>
    cases hx
    rw [extend_of_no_row _ rfl]
    rfl
  | cons f rest =>
    have htake := take_eq_of_yields (f := f) hx
    rw [h] at htake
    simp only [htake]
    rfl

end Call

/-! ## Call after call -/

section Calls

variable {s : RowStream} {qualified : Bool} {k : Nat}

theorem fetchAt_drop (s : RowStream) (k : Nat) : fetchAt (s.drop k) 0 = fetchAt s k := by
  rw [fetchAt, List.getElem?_drop, Nat.add_zero, fetchAt]

theorem columnsAfter_succ (s : RowStream) (k : Nat) :
    columnsAfter s (k + 1) = extend (columnsAfter s k) (fetchAt s k) := by
  simp only [columnsAfter, List.take_add_one, List.map_append, List.find?_append]
  cases hfind : ((s.take k).map reported).find? (· ≠ []) with
  | some columns =>
    have hne : columns ≠ [] := by simpa using List.find?_some hfind
    simp [extend, hne]
  | none =>
    cases hk : s[k]? with
    | none => simp [extend, fetchAt, hk, reported]
    | some f =>
      by_cases hf : reported f = [] <;> simp [extend, fetchAt, hk, hf]

theorem not_endsWithin_of_succ (h : ¬EndsWithin s (k + 1)) :
    ¬EndsWithin s k ∧ (fetchAt s k).answer ≠ .ok none :=
  ⟨fun ⟨i, hi, hend⟩ => h ⟨i, Nat.lt_succ_of_lt hi, hend⟩, fun hend => h ⟨k, Nat.lt_succ_self k, hend⟩⟩

/-- While the result has not ended, each call has made one fetch. -/
theorem afterCalls_of_not_endsWithin (h : ¬EndsWithin s k) :
    afterCalls (start qualified) s k = (⟨qualified, columnsAfter s k, false⟩, s.drop k) := by
  induction k with
  | zero => rfl
  | succ k ih =>
    obtain ⟨hbefore, hk⟩ := not_endsWithin_of_succ h
    obtain ⟨x, hx⟩ := exists_yields qualified (extend (columnsAfter s k) (fetchAt s k))
      (fetchAt s k).answer
    rw [afterCalls, ih hbefore]
    rw [← fetchAt_drop] at hx hk
    rw [next_eq_of_yields rfl hx, columnsAfter_succ, fetchAt_drop, List.drop_drop]
    rw [fetchAt_drop] at hk
    simp [hk]

/-- After the end the decoder has finished, and it has the columns that were known then. -/
theorem finished_of_endsWithin (h : EndsWithin s k) :
    (afterCalls (start qualified) s k).1.finished = true := by
  induction k with
  | zero => obtain ⟨i, hi, -⟩ := h; exact absurd hi (Nat.not_lt_zero i)
  | succ k ih =>
    rw [afterCalls]
    by_cases hk : EndsWithin s k
    · rw [next_of_finished (ih hk)]
      exact ih hk
    · obtain ⟨i, hi, hend⟩ := h
      have hik : i = k := by
        by_contra hne
        exact hk ⟨i, by omega, hend⟩
      subst hik
      obtain ⟨x, hx⟩ := exists_yields qualified (extend (columnsAfter s i) (fetchAt s i))
        (fetchAt s i).answer
      rw [afterCalls_of_not_endsWithin hk]
      rw [← fetchAt_drop] at hx hend
      rw [next_eq_of_yields rfl hx]
      simpa using hend

/-- A call keeps the columns once they are known. -/
theorem columns_next {d : Decoder} (h : d.columns ≠ []) : (d.next s).2.1.columns = d.columns := by
  cases hd : d.finished with
  | true => rw [next_of_finished hd]
  | false =>
    obtain ⟨x, hx⟩ := exists_yields d.qualified (extend d.columns (fetchAt s 0)) (fetchAt s 0).answer
    rw [next_eq_of_yields hd hx]
    exact if_neg h

theorem columns_afterCalls {d : Decoder} {k' : Nat} (hk : k ≤ k')
    (h : (afterCalls d s k).1.columns ≠ []) :
    (afterCalls d s k').1.columns = (afterCalls d s k).1.columns := by
  induction hk with
  | refl => rfl
  | step _ ih =>
    rw [← ih] at h
    rw [afterCalls, columns_next h, ih]

/-- **Rows one after the other.** Before the end, the call after `k` others makes the next fetch and no
    other, and yields what the answer of that fetch and the columns that are known by then say: those of
    the first row that came with any. They never change again. After the end a call yields none, and
    leaves the decoder and the stream alone. -/
theorem next_afterCalls (qualified : Bool) (s : RowStream) (k : Nat) :
    let (d, rest) := afterCalls (start qualified) s k
    (¬EndsWithin s k → rest = s.drop k ∧ (d.next rest).2.2 = s.drop (k + 1) ∧
        (d.next rest).2.1.columns = columnsAfter s (k + 1) ∧
        ∀ x, (d.next rest).1 = x ↔
          Yields qualified (columnsAfter s (k + 1)) (fetchAt s k).answer x) ∧
      (∀ k' ≥ k, d.columns ≠ [] →
        (afterCalls (start qualified) s k').1.columns = d.columns) ∧
      (EndsWithin s k → d.next rest = (.ok none, d, rest)) := by
  refine ⟨?_, fun k' hk h => columns_afterCalls hk h,
    fun hend => next_of_finished (finished_of_endsWithin hend)⟩
  intro hopen
  obtain ⟨x, hx⟩ := exists_yields qualified (extend (columnsAfter s k) (fetchAt s k))
    (fetchAt s k).answer
  have hnext : next ⟨qualified, columnsAfter s k, false⟩ (s.drop k) =
      (x, ⟨qualified, extend (columnsAfter s k) (fetchAt s k),
        decide ((fetchAt s k).answer = .ok none)⟩, s.drop (k + 1)) := by
    rw [← fetchAt_drop] at hx ⊢
    rw [next_eq_of_yields rfl hx, List.drop_drop]
  rw [afterCalls_of_not_endsWithin hopen, hnext, columnsAfter_succ]
  refine ⟨rfl, rfl, rfl, fun y => ⟨?_, hx.unique⟩⟩
  rintro rfl
  exact hx

end Calls

/-- A row of a number and a date, with the fields that come with it. -/
def rowOf (number date : String) (fields : List Field) : Fetch :=
  ⟨.ok (some [some (Bytes.encode number), some (Bytes.encode date)]), fields⟩

/-- A result whose fields are missing with the first row and come with the second, which has a date that is
    none. They are not repeated, and a fetch fails before the end. -/
def late : RowStream :=
  [rowOf "6" "2024-02-28" [], rowOf "7" "2024-02-30" [⟨"id", some "posts", 3⟩, ⟨"born", none, 10⟩],
    rowOf "8" "2024-02-29" [], ⟨.error (.timeout "fetch" 5), []⟩, ⟨.ok none, []⟩]

/-- The first row has two values too many, and the second is refused for its date; the third has the columns
    that came with the second. After the end nothing changes. -/
theorem next_afterCalls_late :
    let call (k : Nat) := (afterCalls (start true) late k).1.next (afterCalls (start true) late k).2
    (call 0).1 = .error (.internal "Row has 2 values but the result has 0 columns") ∧
      (call 1).1 = .error (.coercion "born" 10 "2024-02-30" "invalid date: input is out of range") ∧
      (call 1).2.1.columns = [⟨"id", some "posts", 0, 3⟩, ⟨"born", none, 1, 10⟩] ∧
      (call 2).1 = .ok (some (.ofList
        [("posts.id", .integer 8), ("born", .date ⟨2024, 2, 29, by decide⟩)])) ∧
      (call 2).2.2 = late.drop 3 ∧ (call 3).1 = .error (.timeout "fetch" 5) ∧
      call 5 = (.ok none, (call 4).2) := by
  have before (k : Nat) (hk : k < 5) : ¬EndsWithin late k := by
    rintro ⟨i, hi, hend⟩
    obtain rfl | rfl | rfl | rfl : i = 0 ∨ i = 1 ∨ i = 2 ∨ i = 3 := by omega
    all_goals cases hend
  have yields (k : Nat) (hk : k < 5) := (next_afterCalls true late k).1 (before k hk)
  have fits : List.Forall₂ (Fits true)
      [(⟨"id", some "posts", 0, 3⟩, some (Bytes.encode "8")),
        (⟨"born", none, 1, 10⟩, some (Bytes.encode "2024-02-29"))]
      [("posts.id", .integer 8), ("born", .date ⟨2024, 2, 29, by decide⟩)] :=
    .cons ⟨rfl, by decide⟩ (.cons ⟨rfl, by decide +kernel⟩ .nil)
  have number : ¬Unfit (⟨"id", some "posts", 0, 3⟩, some (Bytes.encode "7")) := by
    have seven : coerce (some (Bytes.encode "7")) 3 = .ok (.integer 7) := by decide
    rintro ⟨e, he⟩
    rw [seven] at he
    cases he
  have split : List.zip [⟨"id", some "posts", 0, 3⟩, ⟨"born", none, 1, 10⟩]
      [some (Bytes.encode "7"), some (Bytes.encode "2024-02-30")] =
      [((⟨"id", some "posts", 0, 3⟩ : Column), some (Bytes.encode "7"))] ++
        (⟨"born", none, 1, 10⟩, some (Bytes.encode "2024-02-30")) :: [] := rfl
  have noDate : coerce (some (Bytes.encode "2024-02-30")) 10 = .error (.date .outOfRange) := by
    decide +kernel
  have raw : Bytes.decodeLossy (Bytes.encode "2024-02-30") = "2024-02-30" := by decide
  refine ⟨?_, ?_, ?_, ?_, ?_, ?_, ?_⟩
  · exact ((yields 0 (by decide)).2.2.2 _).mpr (.width (by decide))
  · rw [(yields 1 (by decide)).2.2.2, ← raw]
    exact .unfit rfl split (List.forall_mem_singleton.mpr number) noDate
  · exact (yields 1 (by decide)).2.2.1
  · exact ((yields 2 (by decide)).2.2.2 _).mpr (.record rfl fits)
  · exact (yields 2 (by decide)).2.1
  · exact ((yields 3 (by decide)).2.2.2 _).mpr (.failed _)
  · exact (next_afterCalls true late 5).2.2 ⟨4, by decide, rfl⟩

end SqlMapper.Decoder
