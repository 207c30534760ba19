import SqlMapper.Proofs.Config.ConnectionString

/-!
# Pool sizes of database URLs

A database URL may set the least and the greatest size of the pool, or leave out one or both. The sizes
that are set are checked, and then defaults are put in for the others. So both sizes in effect are
positive; but the least one is compared with the greatest only if the URL sets both, and it may exceed
the default.

* `PoolOptions.check_eq_ok_iff`: what the check asks for.
* `exists_ofUrl_withQuery`: the options of a URL with a given query.
* `exists_ofUrl_iff`: the sizes in effect, over all URLs.
* `ofUrl_sizes_iff`: when the sizes in effect agree. `not_minSize_le_maxSize`: a least size of 11.
-/

namespace SqlMapper

/-! ## The check -/

namespace PoolOptions

variable {o : PoolOptions}

/-- The sizes that are set are positive, and if both are set the least is not above the greatest. -/
theorem check_eq_ok_iff : o.check = .ok () ↔ o.maxConnections? ≠ some 0 ∧ o.minConnections? ≠ some 0 ∧
    ∀ least ∈ o.minConnections?, ∀ most ∈ o.maxConnections?, least ≤ most := by
  unfold check
  by_cases hmost : o.maxConnections? = some 0
  · simp [hmost]
  by_cases hleast : o.minConnections? = some 0
  · simp [hmost, hleast]
  rw [if_neg hmost, if_neg hleast]
  cases hmin : o.minConnections? with
  | none => simp [hmost]
  | some least =>
    cases hmax : o.maxConnections? with
    | none => simpa [hmin] using hleast
    | some most =>
      rw [hmin] at hleast
      rw [hmax] at hmost
      by_cases hlt : most < least
      · simp [hlt]
      · simpa [hlt, hmost, hleast] using UInt32.not_lt.mp hlt

/-- Defaults are positive, so the sizes in effect are if those are that are set. -/
theorem sizes_pos (h : o.check = .ok ()) : 0 < o.maxSize ∧ 0 < o.minSize := by
  obtain ⟨hmost, hleast, -⟩ := check_eq_ok_iff.mp h
  have positive : ∀ {size? : Option UInt32} {default : UInt32}, size? ≠ some 0 → 0 < default →
      0 < size?.getD default := by
    intro size? default hsize hdefault
    cases size? with
    | none => exact hdefault
    | some size => exact UInt32.pos_iff_ne_zero.mpr fun hzero => hsize (congrArg some hzero)
  exact ⟨positive hmost (by decide), positive hleast (by decide)⟩

/-- The least size in effect exceeds the greatest only if that is a default. -/
theorem minSize_le_maxSize_iff (h : o.check = .ok ()) :
    o.minSize ≤ o.maxSize ↔ (o.maxConnections? = none → o.minSize ≤ 10) := by
  obtain ⟨hmost, -, agree⟩ := check_eq_ok_iff.mp h
  cases hmax : o.maxConnections? with
  | none => simp [maxSize, hmax]
  | some most =>
    have ordered : o.minSize ≤ most := by
      cases hmin : o.minConnections? with
      | none =>
        have positive : 0 < most :=
          UInt32.pos_iff_ne_zero.mpr fun hzero => hmost (hmax.trans (congrArg some hzero))
        show o.minConnections?.getD 1 ≤ most
        rw [hmin]
        exact UInt32.le_iff_toNat_le.mpr (UInt32.lt_iff_toNat_lt.mp positive)
      | some least =>
        show o.minConnections?.getD 1 ≤ most
        rw [hmin]
        exact agree least hmin most hmax
    simpa [maxSize, hmax] using ordered

end PoolOptions

namespace DatabaseConfig

variable {text : String} {c : DatabaseConfig} {least most : UInt32}

/-! ## URLs with a given query -/

/-- Options under their plain names are taken as they stand. -/
theorem takeOptions_of_names {pairs : List (String × String)} (h : ∀ p ∈ pairs, p.1 ∈ optionNames) :
    (takeOptions pairs).1 = pairs := by
  have plain : ∀ name ∈ optionNames, plainName name = name := by decide
  have taken : pairs.filter (fun p => optionNames.contains (plainName p.1)) = pairs := by
    rw [List.filter_eq_self]
    intro p hp
    rw [plain p.1 (h p hp)]
    exact List.contains_iff_mem.mpr (h p hp)
  show (pairs.filter (fun p => optionNames.contains (plainName p.1))).map _ = pairs
  rw [taken]
  calc pairs.map (fun p => (plainName p.1, p.2)) = pairs.map id := by
        apply List.map_congr_left
        intro p hp
        rw [plain p.1 (h p hp)]
        rfl
    _ = pairs := List.map_id pairs

/-- A URL of a server and a database, with a query of the given pairs. -/
def withQuery (pairs : List (String × String)) : Url :=
  ⟨"mysql".toList, some ⟨[], [], "h".toList, none⟩, "/d".toList, some (Form.write pairs), none⟩

theorem settled_withQuery (pairs : List (String × String)) : (withQuery pairs).Settled := by
  have bare : Url.ofText "mysql://h/d".toList =
      .ok ⟨"mysql".toList, some ⟨[], [], "h".toList, none⟩, "/d".toList, none, none⟩ := by decide
  obtain ⟨authority, path, -, fragment⟩ :=
    Url.settled_of_ofText bare (by decide) (by decide) (by simp)
  refine ⟨authority, path, ?_, fragment⟩
  intro query hquery
  cases hquery
  exact Form.free_write pairs

theorem ofText_withQuery (pairs : List (String × String)) :
    Url.ofText (withQuery pairs).text = .ok (withQuery pairs) :=
  Url.ofText_text foreign_mysql (settled_withQuery pairs)

/-- Every query whose pool options agree gives a configuration with these options. -/
theorem exists_ofUrl_withQuery {pairs : List (String × String)} {o : PoolOptions}
    (hpool : poolOptions (takeOptions pairs).1 = o) (h : o.check = .ok ()) :
    ∃ c, ofUrl (String.ofList (withQuery pairs).text) = .ok c ∧ c.pool = o := by
  have hpairs : (withQuery pairs).pairs = pairs := Form.read_write pairs
  have hcheck : (poolOptions (takeOptions (withQuery pairs).pairs).1).check = .ok () := by
    rw [hpairs, hpool, h]
  refine ⟨_, ofUrl_eq ?_ (by show isSupported "mysql".toList = true; decide) hcheck, ?_⟩
  · rw [String.toList_ofList]
    exact ofText_withQuery pairs
  · show poolOptions (takeOptions (withQuery pairs).pairs).1 = o
    rw [hpairs, hpool]

/-! ## Sizes in a query -/

/-- A size as it stands in a query. -/
def sizeText (size : UInt32) : String := String.ofList (Number.decimal size.toNat)

theorem readBelow?_sizeText (size : UInt32) :
    (Number.readBelow? UInt32.size (sizeText size).toList).map UInt32.ofNat = some size := by
  rw [sizeText, String.toList_ofList, Number.readBelow?_decimal size.toNat_lt, Option.map_some,
    UInt32.ofNat_toNat]

theorem poolOptions_least (least : UInt32) :
    poolOptions (takeOptions [("min_connections", sizeText least)]).1 =
      { PoolOptions.unset with minConnections? := some least } := by
  rw [takeOptions_of_names (by simp [optionNames])]
  simp [poolOptions, option?, List.lookup_cons, readBelow?_sizeText, PoolOptions.unset]

theorem poolOptions_both (least most : UInt32) :
    poolOptions (takeOptions [("min_connections", sizeText least),
      ("max_connections", sizeText most)]).1 =
      { PoolOptions.unset with minConnections? := some least, maxConnections? := some most } := by
  rw [takeOptions_of_names (by simp [optionNames])]
  simp [poolOptions, option?, List.lookup_cons, readBelow?_sizeText, PoolOptions.unset]

/-! ## Sizes in effect -/

/-- A URL that sets only the least size is accepted. -/
theorem exists_ofUrl_least (hleast : least ≠ 0) :
    ∃ c, ofUrl (String.ofList (withQuery [("min_connections", sizeText least)]).text) = .ok c ∧
      c.pool = { PoolOptions.unset with minConnections? := some least } := by
  apply exists_ofUrl_withQuery (poolOptions_least least)
  exact PoolOptions.check_eq_ok_iff.mpr (by simp [hleast, PoolOptions.unset])

/-- Whatever the sizes in effect are, some URL gives them, if they are positive, and the least one is not
    above the greatest or the greatest is the default. -/
theorem exists_ofUrl_of_sizes (hleast : 0 < least) (hmost : 0 < most) (h : least ≤ most ∨ most = 10) :
    ∃ text c, ofUrl text = .ok c ∧ c.pool.minSize = least ∧ c.pool.maxSize = most := by
  have hleast : least ≠ 0 := UInt32.pos_iff_ne_zero.mp hleast
  have hmost : most ≠ 0 := UInt32.pos_iff_ne_zero.mp hmost
  rcases h with hle | rfl
  · have agree : PoolOptions.check { PoolOptions.unset with
        minConnections? := some least, maxConnections? := some most } = .ok () :=
      PoolOptions.check_eq_ok_iff.mpr (by simp [hleast, hmost, hle])
    obtain ⟨c, accepted, hpool⟩ := exists_ofUrl_withQuery (poolOptions_both least most) agree
    exact ⟨_, c, accepted, by rw [hpool]; rfl, by rw [hpool]; rfl⟩
  · obtain ⟨c, accepted, hpool⟩ := exists_ofUrl_least hleast
    exact ⟨_, c, accepted, by rw [hpool]; rfl, by rw [hpool]; rfl⟩

theorem check_of_ofUrl (h : ofUrl text = .ok c) : c.pool.check = .ok () := by
  obtain ⟨url, -, -, hcheck, rfl⟩ := ofUrl_eq_ok_iff.mp h
  exact hcheck

/-- Over all URLs that are accepted, the sizes in effect are those that are positive, where the least one
    is at most the greatest or the greatest is the default. -/
theorem exists_ofUrl_iff :
    (∃ text c, ofUrl text = .ok c ∧ c.pool.minSize = least ∧ c.pool.maxSize = most) ↔
      0 < least ∧ 0 < most ∧ (least ≤ most ∨ most = 10) := by
  constructor
  · rintro ⟨text, c, h, rfl, rfl⟩
    obtain ⟨hmost, hleast⟩ := PoolOptions.sizes_pos (check_of_ofUrl h)
    refine ⟨hleast, hmost, ?_⟩
    cases hset : c.pool.maxConnections? with
    | none => exact .inr (by simp [PoolOptions.maxSize, hset])
    | some size =>
      left
      apply (PoolOptions.minSize_le_maxSize_iff (check_of_ofUrl h)).mpr
      intro hnone
      rw [hset] at hnone
      cases hnone
  · rintro ⟨hleast, hmost, h⟩
    exact exists_ofUrl_of_sizes hleast hmost h

/-- **Pool sizes of database URLs.** For every URL that is accepted, whatever its query sets or leaves
    out, both sizes in effect are positive, and the least one is at most the greatest exactly if the URL
    sets the greatest, or the least one is at most the default of the greatest. -/
theorem ofUrl_sizes_iff (h : ofUrl text = .ok c) :
    0 < c.pool.maxSize ∧ 0 < c.pool.minSize ∧
      (c.pool.minSize ≤ c.pool.maxSize ↔ (c.pool.maxConnections? = none → c.pool.minSize ≤ 10)) := by
  obtain ⟨hmost, hleast⟩ := PoolOptions.sizes_pos (check_of_ofUrl h)
  exact ⟨hmost, hleast, PoolOptions.minSize_le_maxSize_iff (check_of_ofUrl h)⟩

/-- A URL that sets the least size to 10, and leaves the greatest at its default. -/
theorem ofUrl_sizes_ten : ∃ c, ofUrl "mysql://h/d?min_connections=10" = .ok c ∧
    0 < c.pool.maxSize ∧ 0 < c.pool.minSize ∧ c.pool.minSize ≤ c.pool.maxSize := by
  have htext : String.ofList (withQuery [("min_connections", sizeText 10)]).text =
      "mysql://h/d?min_connections=10" := by decide
  obtain ⟨c, accepted, hpool⟩ := exists_ofUrl_least (by decide : (10 : UInt32) ≠ 0)
  rw [htext] at accepted
  obtain ⟨hmost, hleast, hle⟩ := ofUrl_sizes_iff accepted
  refine ⟨c, accepted, hmost, hleast, hle.mpr fun _ => ?_⟩
  rw [hpool]
  decide

/-- A URL that sets the least size to 11, and leaves the greatest at its default of 10, is accepted. -/
theorem not_minSize_le_maxSize :
    ∃ c, ofUrl "mysql://h/d?min_connections=11" = .ok c ∧ c.pool.minSize = 11 ∧
      c.pool.maxSize = 10 ∧ ¬ c.pool.minSize ≤ c.pool.maxSize := by
  have htext : String.ofList (withQuery [("min_connections", sizeText 11)]).text =
      "mysql://h/d?min_connections=11" := by decide
  obtain ⟨c, accepted, hpool⟩ := exists_ofUrl_least (by decide : (11 : UInt32) ≠ 0)
  rw [htext] at accepted
  refine ⟨c, accepted, ?_⟩
  rw [hpool]
  decide

end DatabaseConfig

end SqlMapper
