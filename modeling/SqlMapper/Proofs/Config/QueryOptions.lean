import Mathlib.Data.List.Induction
import SqlMapper.Proofs.Config.ConnectionString
import SqlMapper.Proofs.Number.Unsigned

/-!
# Options in the query of a database URL

The pairs in the query of a database URL are of two kinds: options of the library, in any letter case, and
the others. Of the pairs for one option the last counts, whether or not it says something. The others are
the query of the connection string, in their order. So the two kinds may be mixed in any way.

* `TruthText`, `Number.UnsignedText`: the texts that say something.
* `Says`, `PoolSays`: what pairs say of an option, and of all options of a pool.
* `SameGroups`: the same options and the same other pairs, mixed in another way.
* `option?_takeOptions`: the option that is found.
* `ofText_stored`: the connection string of every URL that is accepted is a URL again.
* `ofUrl_options_and_others`: the options, the query of the connection string, and another order.
-/

namespace SqlMapper.DatabaseConfig

variable {text : String} {url : Url} {c : DatabaseConfig} {pairs pairs' : List (String × String)}

/-! ## Specification -/

/-- Whether a pair is an option, in whatever letter case. -/
def isOption (p : String × String) : Bool :=
  p.1.toLower ∈ ["log_sql", "max_connections", "min_connections", "idle_timeout", "acquire_timeout",
    "test_before_acquire"]

/-- The value of the last pair with a name, in whatever letter case. -/
def lastValue? (pairs : List (String × String)) (name : String) : Option String :=
  (pairs.filter fun p => p.1.toLower = name).getLast?.map Prod.snd

/-- The texts of a truth value: its name, in whatever letter case. -/
def TruthText (text : String) (b : Bool) : Prop := text.toLower = if b then "true" else "false"

/-- The last pair for an option says its value; the option is unset if there is no such pair, or if its text
    is none of a value. -/
def Says {α : Type} (means : String → α → Prop) (pairs : List (String × String)) (name : String)
    (x? : Option α) : Prop :=
  ∀ x, x? = some x ↔ ∃ text, lastValue? pairs name = some text ∧ means text x

/-- Pairs say the options of a pool. -/
structure PoolSays (pairs : List (String × String)) (o : PoolOptions) : Prop where
  maxConnections : Says (fun text (n : UInt32) => Number.UnsignedText text.toList n.toNat) pairs
    "max_connections" o.maxConnections?
  minConnections : Says (fun text (n : UInt32) => Number.UnsignedText text.toList n.toNat) pairs
    "min_connections" o.minConnections?
  idleTimeout : Says (fun text (n : UInt64) => Number.UnsignedText text.toList n.toNat) pairs
    "idle_timeout" o.idleTimeout?
  acquireTimeout : Says (fun text (n : UInt64) => Number.UnsignedText text.toList n.toNat) pairs
    "acquire_timeout" o.acquireTimeout?
  testBefore : Says TruthText pairs "test_before_acquire" o.testBefore?

/-- The pairs that are no options. -/
def others (pairs : List (String × String)) : List (String × String) := pairs.filter (!isOption ·)

/-- The options are the same in the same order, and so are the other pairs. -/
def SameGroups (pairs pairs' : List (String × String)) : Prop :=
  pairs.filter isOption = pairs'.filter isOption ∧ others pairs = others pairs'

/-! ## Options -/

theorem plainName_eq_toLower (name : String) : plainName name = name.toLower := by
  change plainName name = name.map Char.toLower
  rw [plainName, ← String.toList_inj, String.toList_ofList, String.toList_map]

theorem isOption_eq : isOption = fun p => optionNames.contains (plainName p.1) := by
  funext p
  rw [plainName_eq_toLower, isOption, List.contains_eq_mem]
  rfl

theorem takeOptions_eq (pairs : List (String × String)) : takeOptions pairs =
    ((pairs.filter isOption).map fun p => (p.1.toLower, p.2), others pairs) := by
  unfold takeOptions others
  rw [← isOption_eq]
  simp only [plainName_eq_toLower]

/-- Of the pairs for an option the last is found. -/
theorem option?_takeOptions {name : String} (h : name ∈ optionNames) (pairs : List (String × String)) :
    option? (takeOptions pairs).1 name = lastValue? pairs name := by
  rw [takeOptions_eq]
  show (((pairs.filter isOption).map fun p => (p.1.toLower, p.2)).reverse.lookup name) = _
  unfold lastValue?
  induction pairs using List.reverseRecOn with
  | nil => rfl
  | append_singleton pairs p ih =>
    rw [List.filter_append, List.filter_append, List.map_append, List.reverse_append, List.getLast?_append]
    by_cases hname : p.1.toLower = name
    · have hoption : isOption p = true := by
        rw [isOption, hname]
        exact decide_eq_true h
      simp [hoption, hname]
    · cases hoption : isOption p with
      | false => simpa [hoption, hname] using ih
      | true =>
        have hne : (name == p.1.toLower) = false := beq_eq_false_iff_ne.mpr (Ne.symm hname)
        simpa [hoption, hname, List.lookup_cons, hne] using ih

/-! ## What the values say -/

theorem readBool?_eq_some_iff {b : Bool} : readBool? text = some b ↔ TruthText text b := by
  unfold readBool? TruthText
  rw [plainName_eq_toLower]
  split
  · next h => cases b <;> simp [h]
  · next h => cases b <;> simp [h]
  · next htrue hfalse =>
    cases b with
    | true => simpa using htrue
    | false => simpa using hfalse

theorem says_bind {α : Type} {means : String → α → Prop} {read : String → Option α} {name : String}
    (h : name ∈ optionNames) (reads : ∀ text x, read text = some x ↔ means text x) :
    Says means pairs name ((option? (takeOptions pairs).1 name).bind read) := by
  intro x
  rw [option?_takeOptions h, Option.bind_eq_some_iff]
  simp only [reads]

/-- The same for the numbers of a type with a bound. -/
theorem says_number {α : Type} {bound : Nat} {ofNat : Nat → α} {toNat : α → Nat} {name : String}
    (below : ∀ x, toNat x < bound) (toNat_ofNat : ∀ n < bound, toNat (ofNat n) = n)
    (ofNat_toNat : ∀ x, ofNat (toNat x) = x) (pairs : List (String × String)) (h : name ∈ optionNames) :
    Says (fun text x => Number.UnsignedText text.toList (toNat x)) pairs name
      (((option? (takeOptions pairs).1 name).bind fun text =>
        Number.readBelow? bound text.toList).map ofNat) := by
  rw [Option.map_bind]
  refine says_bind h fun text x => ?_
  show (Number.readBelow? bound text.toList).map ofNat = some x ↔ _
  rw [Option.map_eq_some_iff]
  constructor
  · rintro ⟨n, read, rfl⟩
    obtain ⟨small, written⟩ := Number.readBelow?_eq_some_iff.mp read
    rwa [toNat_ofNat n small]
  · intro written
    exact ⟨toNat x, Number.readBelow?_eq_some_iff.mpr ⟨below x, written⟩, ofNat_toNat x⟩

theorem says_word (pairs : List (String × String)) {name : String} (h : name ∈ optionNames) :
    Says (fun text (n : UInt32) => Number.UnsignedText text.toList n.toNat) pairs name
      (((option? (takeOptions pairs).1 name).bind fun text =>
        Number.readBelow? UInt32.size text.toList).map UInt32.ofNat) :=
  says_number UInt32.toNat_lt (fun _ => UInt32.toNat_ofNat_of_lt') (fun _ => UInt32.ofNat_toNat) pairs h

theorem says_longWord (pairs : List (String × String)) {name : String} (h : name ∈ optionNames) :
    Says (fun text (n : UInt64) => Number.UnsignedText text.toList n.toNat) pairs name
      (((option? (takeOptions pairs).1 name).bind fun text =>
        Number.readBelow? UInt64.size text.toList).map UInt64.ofNat) :=
  says_number UInt64.toNat_lt (fun _ => UInt64.toNat_ofNat_of_lt') (fun _ => UInt64.ofNat_toNat) pairs h

theorem poolSays_poolOptions (pairs : List (String × String)) :
    PoolSays pairs (poolOptions (takeOptions pairs).1) where
  maxConnections := says_word pairs (by decide)
  minConnections := says_word pairs (by decide)
  idleTimeout := says_longWord pairs (by decide)
  acquireTimeout := says_longWord pairs (by decide)
  testBefore := says_bind (by decide) fun _ _ => readBool?_eq_some_iff

/-- How the two kinds of pairs are mixed does not matter. -/
theorem takeOptions_congr (h : SameGroups pairs pairs') : takeOptions pairs = takeOptions pairs' := by
  rw [takeOptions_eq, takeOptions_eq, h.1, h.2]

/-! ## The connection string -/

theorem foreign_of_isSupported {scheme : List Char} (h : isSupported scheme = true) :
    Url.Foreign scheme := by
  rcases eq_of_isSupported h with rfl | rfl
  · exact foreign_mysql
  · exact ⟨by decide, by decide, by decide, by decide, by decide, by decide⟩

/-- The URL for the client is read back from its text, with or without a server. -/
theorem ofText_stored {s : List Char} (h : Url.ofText s = .ok url)
    (hscheme : isSupported url.scheme = true) : Url.ofText (stored url).text = .ok (stored url) :=
  Url.ofText_withPairs h (foreign_of_isSupported hscheme) foreign_mysql _

/-! ## Another order -/

/-- Of the query the URL for the client keeps the other pairs alone. -/
theorem stored_congr {url' : Url} (h : url' = { url with query? := url'.query? })
    (same : takeOptions url'.pairs = takeOptions url.pairs) : stored url' = stored url := by
  unfold stored
  rw [same, h]
  unfold Url.withPairs Url.withoutQuery
  split <;> rfl

theorem stored_withPairs (same : takeOptions pairs = takeOptions url.pairs) :
    stored (url.withPairs pairs) = stored url := by
  by_cases hnil : pairs = []
  · subst hnil
    have noOthers : (takeOptions url.pairs).2 = [] := congrArg Prod.snd same.symm
    unfold stored
    rw [Url.pairs_withPairs, same, noOthers]
    exact Url.withoutQuery_withoutQuery { url with scheme := "mysql".toList }
  · refine stored_congr ?_ (by rw [Url.pairs_withPairs, same])
    rw [Url.withPairs, if_neg hnil]

/-- The same options and the same other pairs make the same configuration. -/
theorem ofUrl_congr {text' : String} {url' : Url} (h : ofUrl text = .ok c)
    (hurl : Url.ofText text.toList = .ok url) (hurl' : Url.ofText text'.toList = .ok url')
    (hscheme : url'.scheme = url.scheme) (same : takeOptions url'.pairs = takeOptions url.pairs)
    (hstored : stored url' = stored url) : ofUrl text' = .ok c := by
  obtain ⟨url₁, hurl₁, hsupported, hpool, rfl⟩ := ofUrl_eq_ok_iff.mp h
  obtain rfl : url₁ = url := Except.ok.inj (hurl₁.symm.trans hurl)
  rw [ofUrl_eq hurl' (hscheme ▸ hsupported) (same ▸ hpool), hstored, same]

/-- **Options and other pairs of a query.** For every database URL that is accepted and the pairs of its
    query:

    * each option has the value that the last pair for it says, in whatever letter case, and is unset if that
      one says nothing of its kind, whatever the pairs before it say; statements are logged only if the last
      pair for that says so;
    * the connection string is a URL again, and the pairs of its query are the others, in their order; it
      has no query if there are none;
    * the URL with the same options and the same others, mixed in another way, gives the same
      configuration, and so does every text that differs in this alone. -/
theorem ofUrl_options_and_others (h : ofUrl text = .ok c) : ∃ url, Url.ofText text.toList = .ok url ∧
    (c.logSql = true ↔ ∃ v, lastValue? url.pairs "log_sql" = some v ∧ TruthText v true) ∧
    PoolSays url.pairs c.pool ∧
    (∃ url', Url.ofText c.connectionString.toList = .ok url' ∧ url'.pairs = others url.pairs ∧
      (url'.query? = none ↔ others url.pairs = [])) ∧
    (∀ pairs, SameGroups pairs url.pairs → ofUrl (String.ofList (url.withPairs pairs).text) = .ok c) ∧
    ∀ text' url', Url.ofText text'.toList = .ok url' → url' = { url with query? := url'.query? } →
      SameGroups url'.pairs url.pairs → ofUrl text' = .ok c := by
  obtain ⟨url, hurl, hsupported, -, hc⟩ := ofUrl_eq_ok_iff.mp h
  have takenOthers : (takeOptions url.pairs).2 = others url.pairs := congrArg Prod.snd (takeOptions_eq _)
  refine ⟨url, hurl, ?_, ?_, ⟨stored url, ?_, ?_, ?_⟩, ?_, ?_⟩
  · rw [hc, decide_eq_true_eq]
    exact says_bind (by decide) (fun _ _ => readBool?_eq_some_iff) true
  · rw [hc]
    exact poolSays_poolOptions url.pairs
  · rw [hc, String.toList_ofList]
    exact ofText_stored hurl hsupported
  · rw [← takenOthers]
    exact Url.pairs_withPairs _ _
  · rw [← takenOthers]
    exact Url.query?_withPairs_eq_none_iff
  · intro pairs same
    have taken := takeOptions_congr same
    have foreign := foreign_of_isSupported hsupported
    have reread : Url.ofText (String.ofList (url.withPairs pairs).text).toList =
        .ok (url.withPairs pairs) := by
      rw [String.toList_ofList]
      exact Url.ofText_withPairs hurl foreign foreign pairs
    exact ofUrl_congr h hurl reread (Url.scheme_withPairs url pairs) (by rw [Url.pairs_withPairs, taken])
      (stored_withPairs taken)
  · intro text' url' hurl' hrest same
    have taken := takeOptions_congr same
    exact ofUrl_congr h hurl hurl' (by rw [hrest]) taken (stored_congr hrest taken)

/-- A size that is given twice, in different letter case, around a parameter of the client; a time with a plus
    sign and a zero; and truth values in any letter case. -/
def repeatedPairs : List (String × String) :=
  [("Max_Connections", "5"), ("LOG_SQL", "True"), ("charset", "x"), ("max_connections", "many"),
    ("idle_timeout", "+060"), ("test_before_acquire", "FALSE")]

/-- The parameter of the client first. -/
def movedPairs : List (String × String) :=
  [("charset", "x"), ("Max_Connections", "5"), ("LOG_SQL", "True"), ("max_connections", "many"),
    ("idle_timeout", "+060"), ("test_before_acquire", "FALSE")]

/-- A URL with pairs in its query. -/
def queried (pairs : List (String × String)) : Url :=
  ⟨"mysql".toList, some ⟨[], [], "h".toList, none⟩, "/d".toList, some (Form.write pairs), none⟩

/-- The size is unset, for the last one says no number. Statements are logged, and connections are not tested. -/
theorem ofUrl_options_and_others_repeated :
    let c : DatabaseConfig :=
      ⟨"mysql://h/d?charset=x", some "d", true, ⟨none, none, some 60, none, some false⟩⟩
    ofUrl ("mysql://h/d?Max_Connections=5&LOG_SQL=True&charset=x&max_connections=many" ++
        "&idle_timeout=%2B060&test_before_acquire=FALSE") = .ok c ∧
      ofUrl ("mysql://h/d?charset=x&Max_Connections=5&LOG_SQL=True&max_connections=many" ++
        "&idle_timeout=%2B060&test_before_acquire=FALSE") = .ok c ∧
      PoolSays repeatedPairs c.pool ∧ ∃ v, lastValue? repeatedPairs "log_sql" = some v ∧ TruthText v true := by
  intro c
  have given : ofUrl ("mysql://h/d?Max_Connections=5&LOG_SQL=True&charset=x&max_connections=many" ++
      "&idle_timeout=%2B060&test_before_acquire=FALSE") = .ok c := by decide +kernel
  obtain ⟨url, hurl, logs, pool, -, -, moved⟩ := ofUrl_options_and_others given
  obtain rfl : url = queried repeatedPairs := by
    have reads : Url.ofText ("mysql://h/d?Max_Connections=5&LOG_SQL=True&charset=x&max_connections=many" ++
        "&idle_timeout=%2B060&test_before_acquire=FALSE").toList = .ok (queried repeatedPairs) := by
      decide +kernel
    exact Except.ok.inj (hurl.symm.trans reads)
  have pairs : (queried repeatedPairs).pairs = repeatedPairs := Form.read_write repeatedPairs
  have same : SameGroups (queried movedPairs).pairs (queried repeatedPairs).pairs := by
    rw [pairs, show (queried movedPairs).pairs = movedPairs from Form.read_write movedPairs]
    simp only [SameGroups, others, isOption_eq]
    decide
  rw [pairs] at logs pool
  exact ⟨given, moved _ (queried movedPairs) (by decide +kernel) rfl same, pool, logs.mp rfl⟩

end SqlMapper.DatabaseConfig
