import SqlMapper.Proofs.Record.History
import SqlMapper.Proofs.Row.Decoder
import SqlMapper.Proofs.Text.Split

/-!
# The entries of a decoded record

Columns of a result may have the same key: then the record has one entry for them, in the place of the first
one and with the value of the last one. With qualified keys that happens only to columns that agree in table
and name, if no dot stands in these. So no column of a join is lost.

* `Column.source`: the table and the name of a column.
* `key_eq_key_iff`: which columns have the same qualified key.
* `exists_of_next`: where a decoded record comes from.
* `next_entries_by_key`: the entries of a record.
-/

namespace SqlMapper

namespace Column

/-- The table, nothing if none is known, and the name of a column. -/
def source (c : Column) : String × String := (c.table?.getD "", c.name)

/-- No dot stands in the name of a column, and none in the name of its table. -/
def Undotted (c : Column) : Prop := '.' ∉ c.source.1.toList ∧ '.' ∉ c.source.2.toList

instance (c : Column) : Decidable c.Undotted := inferInstanceAs (Decidable (_ ∧ _))

variable {c c' : Column}

/-- The qualified key, read off the source. -/
theorem toList_key (c : Column) : (c.key true).toList =
    if c.source.1 = "" then c.source.2.toList else c.source.1.toList ++ '.' :: c.source.2.toList := by
  obtain ⟨name, table?, index, typeCode⟩ := c
  cases table? with
  | none => rfl
  | some table =>
    by_cases h : table = "" <;> simp [key, source, h]

/-- The name stands after the only dot of a key, if there is one. -/
theorem splitAtFirst_key (h : c.Undotted) : Text.splitAtFirst '.' (c.key true).toList =
    if c.source.1 = "" then (c.source.2.toList, none)
    else (c.source.1.toList, some c.source.2.toList) := by
  rw [toList_key]
  split
  · exact Text.splitAtFirst_of_not_mem h.2
  · exact Text.splitAtFirst_append h.1 _

/-- Without dots, columns have the same qualified key if they agree in table and name. -/
theorem key_eq_key_iff (h : c.Undotted) (h' : c'.Undotted) :
    c.key true = c'.key true ↔ c.source = c'.source := by
  constructor
  · intro same
    have parts := splitAtFirst_key h
    rw [same, splitAtFirst_key h'] at parts
    by_cases hc : c.source.1 = "" <;> by_cases hc' : c'.source.1 = "" <;>
      simp only [hc, hc', if_true, if_false, Prod.mk.injEq, Option.some.injEq, reduceCtorEq, and_true,
        and_false, String.toList_inj] at parts
    · exact Prod.ext (hc.trans hc'.symm) parts.symm
    · exact Prod.ext parts.1.symm parts.2.symm
  · intro same
    rw [← String.toList_inj, toList_key, toList_key, same]

end Column

namespace Decoder

variable {d d' : Decoder} {s rest : RowStream} {r : Record} {qualified : Bool} {columns : List Column}
  {row : RawRow} {entries : List (String × Value)}

/-! ## Where a record comes from -/

/-- A record is made from the row of the next fetch, with one entry put in for each column. -/
theorem exists_of_next (h : d.next s = (.ok (some r), d', rest)) :
    ∃ row fields entries, s = ⟨.ok (some row), fields⟩ :: rest ∧ row.length = d'.columns.length ∧
      List.Forall₂ (Fits d.qualified) (d'.columns.zip row) entries ∧ r = Record.ofList entries := by
  cases hd : d.finished with
  | true =>
    rw [next_of_finished hd] at h
    cases h
  | false =>
    obtain ⟨x, hx⟩ := exists_yields d.qualified (extend d.columns (fetchAt s 0)) (fetchAt s 0).answer
    rw [next_eq_of_yields hd hx] at h
    obtain ⟨rfl, rfl, rfl⟩ : x = _ ∧ _ = d' ∧ s.drop 1 = rest := by simpa using h
    cases s with
    | nil => cases hx
    | cons f rest =>
      obtain ⟨answer, fields⟩ := f
      obtain ⟨row, rfl⟩ : ∃ row, answer = .ok (some row) := by
        cases hx with
        | record => exact ⟨_, rfl⟩
      cases hx with
      | record width fit => exact ⟨row, fields, _, rfl, width, fit, rfl⟩

/-! ## Keys and values -/

theorem map_key_of_fits {pairs : List (Column × Option Bytes)}
    (fit : List.Forall₂ (Fits qualified) pairs entries) :
    entries.map Prod.fst = pairs.map fun p => p.1.key qualified := by
  induction fit with
  | nil => rfl
  | cons head _ ih => rw [List.map_cons, List.map_cons, ← head.1, ih]

/-- The entries are put in under the keys of the columns. -/
theorem map_fst_of_fits (width : row.length = columns.length)
    (fit : List.Forall₂ (Fits qualified) (columns.zip row) entries) :
    entries.map Prod.fst = columns.map (Column.key · qualified) := by
  calc entries.map Prod.fst = (columns.zip row).map fun p => p.1.key qualified := map_key_of_fits fit
    _ = ((columns.zip row).map Prod.fst).map (Column.key · qualified) := by rw [List.map_map]; rfl
    _ = columns.map (Column.key · qualified) := by rw [List.map_fst_zip (Nat.le_of_eq width.symm)]

/-- The value of a column is found under its key, if no later column has that key. -/
theorem get?_of_fits {before after : List (Column × Option Bytes)} {c : Column} {raw : Option Bytes}
    (fit : List.Forall₂ (Fits qualified) (before ++ (c, raw) :: after) entries)
    (last : c.key qualified ∉ after.map fun p => p.1.key qualified) :
    ∃ v, coerce raw c.typeCode = .ok v ∧
      (Record.ofList entries).get? (c.key qualified) = some v := by
  have fitBack := List.forall₂_drop_append entries before ((c, raw) :: after) fit.flip
  obtain ⟨entry, back, ⟨hkey, hvalue⟩, fitAfter, hback⟩ := List.forall₂_cons_right_iff.mp fitBack
  have split : entries = entries.take before.length ++ (c.key qualified, entry.2) :: back := by
    rw [show (c.key qualified, entry.2) = entry from Prod.ext hkey rfl, ← hback, List.take_append_drop]
  refine ⟨entry.2, hvalue, ?_⟩
  rw [split]
  exact Record.get?_ofList_append _ (map_key_of_fits fitAfter.flip ▸ last)

/-- Columns of different sources have different keys. -/
theorem nodup_keys (undotted : ∀ c ∈ columns, c.Undotted) (h : (columns.map Column.source).Nodup) :
    (columns.map (Column.key · true)).Nodup := by
  rw [List.Nodup, List.pairwise_map] at h ⊢
  refine h.imp_of_mem fun hc hc' hne same => hne ?_
  exact (Column.key_eq_key_iff (undotted _ hc) (undotted _ hc')).mp same

/-- **The entries of a record.** A record that is decoded from a row has one entry for each key of a
    column, in the order in which the columns have these keys first, and with the value of the last column
    that has the key. With qualified keys, if no dot stands in the names of the columns and of their
    tables, only columns that agree in both have the same key; so if no two do, each column has an entry of
    its own, in the order of the columns. -/
theorem next_entries_by_key (h : d.next s = (.ok (some r), d', rest)) :
    ∃ row fields, s = ⟨.ok (some row), fields⟩ :: rest ∧ row.length = d'.columns.length ∧
      r.keys = (d'.columns.map (Column.key · d.qualified)).eraseDups ∧
      (∀ before c raw after, d'.columns.zip row = before ++ (c, raw) :: after →
        c.key d.qualified ∉ after.map (fun p => p.1.key d.qualified) →
        ∃ v, coerce raw c.typeCode = .ok v ∧ r.get? (c.key d.qualified) = some v) ∧
      (d.qualified = true → (∀ c ∈ d'.columns, c.Undotted) →
        (∀ c ∈ d'.columns, ∀ c' ∈ d'.columns, c.key true = c'.key true ↔ c.source = c'.source) ∧
        ((d'.columns.map Column.source).Nodup →
          List.Forall₂ (Fits true) (d'.columns.zip row) r.pairs)) := by
  obtain ⟨row, fields, entries, hs, width, fit, rfl⟩ := exists_of_next h
  refine ⟨row, fields, hs, width, ?_, ?_, ?_⟩
  · rw [Record.keys_ofList, map_fst_of_fits width fit]
  · intro before c raw after split last
    exact get?_of_fits (split ▸ fit) last
  · intro hqualified undotted
    rw [hqualified] at fit
    refine ⟨fun c hc c' hc' => Column.key_eq_key_iff (undotted c hc) (undotted c' hc'), fun apart => ?_⟩
    have keys := map_fst_of_fits width fit
    rwa [Record.pairs_ofList (keys ▸ nodup_keys undotted apart)]

/-- The fields of a join of posts and comments, and one of no table. -/
def joined : List Field :=
  [⟨"id", some "posts", 3⟩, ⟨"id", some "comments", 3⟩, ⟨"id", none, 3⟩]

/-- One more field, whose table has an empty name. -/
def clashing : List Field := joined ++ [⟨"id", some "", 3⟩]

/-- A result of one row, in which the fields are numbered from 1 on. -/
def numbered (fields : List Field) : RowStream :=
  [⟨.ok (some ((List.range fields.length).map fun i => some [UInt8.ofNat (0x31 + i)])), fields⟩]

theorem next_numbered_joined : (start true).next (numbered joined) =
    (.ok (some (.ofList [("posts.id", .integer 1), ("comments.id", .integer 2), ("id", .integer 3)])),
      ⟨true, Column.ofFields 0 joined, false⟩, []) := by
  rfl

theorem next_numbered_clashing : (start true).next (numbered clashing) =
    (.ok (some (.ofList [("posts.id", .integer 1), ("comments.id", .integer 2), ("id", .integer 4)])),
      ⟨true, Column.ofFields 0 clashing, false⟩, []) := by
  rfl

/-- Of the two fields with the key `id` the last one has the entry; without it there are three entries. -/
theorem next_entries_by_key_joined :
    (∃ r, (start true).next (numbered clashing) =
        (.ok (some r), ⟨true, Column.ofFields 0 clashing, false⟩, []) ∧
      r.keys = ["posts.id", "comments.id", "id"] ∧
      ∃ v, coerce (some [0x34]) 3 = .ok v ∧ r.get? "id" = some v) ∧
    ∃ r, (start true).next (numbered joined) =
        (.ok (some r), ⟨true, Column.ofFields 0 joined, false⟩, []) ∧
      ∃ row, List.Forall₂ (Fits true) ((Column.ofFields 0 joined).zip row) r.pairs := by
  constructor
  · obtain ⟨row, fields, hs, -, hkeys, hvalue, -⟩ := next_entries_by_key next_numbered_clashing
    obtain ⟨rfl, rfl⟩ : _ = row ∧ clashing = fields := by simpa [numbered] using hs
    have split : (Column.ofFields 0 clashing).zip
          ((List.range clashing.length).map fun i => some [UInt8.ofNat (0x31 + i)]) =
        (Column.ofFields 0 joined).zip [some [0x31], some [0x32], some [0x33]] ++
          [(⟨"id", some "", 3, 3⟩, some [0x34])] := by decide
    exact ⟨_, next_numbered_clashing, hkeys, hvalue _ _ _ [] split (by decide)⟩
  · obtain ⟨row, -, -, -, -, -, happart⟩ := next_entries_by_key next_numbered_joined
    exact ⟨_, next_numbered_joined, row, (happart rfl (by decide)).2 (by decide)⟩

end Decoder

end SqlMapper
