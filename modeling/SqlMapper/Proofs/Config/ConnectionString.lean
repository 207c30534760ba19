import SqlMapper.Config.Database
import SqlMapper.Proofs.Url.Serverless

/-!
# Connection strings

The connection string of a configuration is a database URL again. It gives the same connection string and
the same database, and no options: all of them were taken out at once, in whatever letter case and
encoding they were written. The other pairs of the query stay as they were, in their order.

* `stored`: the URL for the client.
* `takeOptions_snd`: of the pairs that stay none is an option.
* `stored_stored`: nothing is left to take out.
* `ofUrl_connectionString`: reading a connection string.
-/

namespace SqlMapper.DatabaseConfig

variable {text : String} {url : Url} {c : DatabaseConfig}

/-! ## Options -/

/-- Of the pairs that stay none is an option. -/
theorem takeOptions_snd (pairs : List (String × String)) :
    takeOptions (takeOptions pairs).2 = ([], (takeOptions pairs).2) := by
  have stays : ∀ p ∈ (takeOptions pairs).2, optionNames.contains (plainName p.1) = false := by
    intro p hp
    simpa using (List.mem_filter.mp hp).2
  refine Prod.ext ?_ ?_
  · show ((takeOptions pairs).2.filter _).map _ = []
    rw [List.map_eq_nil_iff, List.filter_eq_nil_iff]
    intro p hp
    rw [stays p hp]
    exact Bool.false_ne_true
  · show (takeOptions pairs).2.filter _ = (takeOptions pairs).2
    rw [List.filter_eq_self]
    intro p hp
    show (!optionNames.contains (plainName p.1)) = true
    rw [stays p hp]
    rfl

/-! ## The URL for the client -/

/-- A URL with the scheme that the client knows, and without options. -/
def stored (url : Url) : Url :=
  { url with scheme := "mysql".toList }.withPairs (takeOptions url.pairs).2

/-- The database that a URL names. -/
def databaseOf (url : Url) : Option String :=
  if String.ofList url.lastStep = "" then none else some (String.ofList url.lastStep)

theorem foreign_mysql : Url.Foreign "mysql".toList :=
  ⟨by decide, by decide, by decide, by decide, by decide, by decide⟩

/-- With a server, only scheme and query change. -/
theorem stored_of_server {a : Authority} (ha : url.authority? = some a) : stored url = { url with
    scheme := "mysql".toList
    query? := if (takeOptions url.pairs).2 = [] then none
      else some (Form.write (takeOptions url.pairs).2) } := by
  unfold stored Url.withPairs
  split
  · simp [Url.withoutQuery, Url.hasOpaquePath, ha]
  · rfl

theorem stored_eq (h : url.Settled) : stored url = { url with
    scheme := "mysql".toList
    query? := if (takeOptions url.pairs).2 = [] then none
      else some (Form.write (takeOptions url.pairs).2) } := by
  obtain ⟨a, ha, -⟩ := h.authority
  exact stored_of_server ha

theorem stored_settled (h : url.Settled) : (stored url).Settled := by
  have settled : Url.Settled { url with scheme := "mysql".toList } :=
    ⟨h.authority, h.path, h.query, h.fragment⟩
  exact Url.settled_withPairs settled _

/-- The pairs that stay are read back from the new query. -/
theorem pairs_stored (h : url.Settled) : (stored url).pairs = (takeOptions url.pairs).2 := by
  rw [stored_eq h, Url.pairs]
  by_cases hnil : (takeOptions url.pairs).2 = []
  · rw [if_pos hnil, hnil]
  · rw [if_neg hnil]
    exact Form.read_write _

/-- Nothing is left to take out. -/
theorem stored_stored (h : url.Settled) : stored (stored url) = stored url := by
  rw [stored_eq (stored_settled h), pairs_stored h, takeOptions_snd]
  rw [stored_eq h]

/-! ## Configurations -/

theorem eq_of_isSupported {scheme : List Char} (h : isSupported scheme = true) :
    scheme = "mysql".toList ∨ scheme = "mariadb".toList := by
  have eq_of_ofList : ∀ {s : String}, String.ofList scheme = s → scheme = s.toList := by
    rintro s rfl
    rw [String.toList_ofList]
  simp only [isSupported, Bool.or_eq_true, beq_iff_eq] at h
  exact h.imp eq_of_ofList eq_of_ofList

/-- What a URL gives that can be read. -/
theorem ofUrl_eq (hurl : Url.ofText text.toList = .ok url) (hscheme : isSupported url.scheme = true)
    (hpool : (poolOptions (takeOptions url.pairs).1).check = .ok ()) :
    ofUrl text = .ok ⟨String.ofList (stored url).text, databaseOf (stored url),
      (option? (takeOptions url.pairs).1 "log_sql").bind readBool? = some true,
      poolOptions (takeOptions url.pairs).1⟩ := by
  unfold ofUrl
  rw [hurl]
  show (do
    if (!isSupported url.scheme) = true then throw (ConfigError.scheme (String.ofList url.scheme))
    (poolOptions (takeOptions url.pairs).1).check.mapError ConfigError.pool
    return (⟨String.ofList (stored url).text, databaseOf (stored url),
      (option? (takeOptions url.pairs).1 "log_sql").bind readBool? = some true,
      poolOptions (takeOptions url.pairs).1⟩ : DatabaseConfig)) = _
  rw [hpool, hscheme]
  rfl

/-- The configurations of database URLs: what the parts of the URL say, if it can be read, its scheme is
    known, and its pool options agree. -/
theorem ofUrl_eq_ok_iff : ofUrl text = .ok c ↔ ∃ url, Url.ofText text.toList = .ok url ∧
    isSupported url.scheme = true ∧ (poolOptions (takeOptions url.pairs).1).check = .ok () ∧
    c = ⟨String.ofList (stored url).text, databaseOf (stored url),
      (option? (takeOptions url.pairs).1 "log_sql").bind readBool? = some true,
      poolOptions (takeOptions url.pairs).1⟩ := by
  constructor
  · intro h
    unfold ofUrl at h
    obtain ⟨url, hurl, h⟩ := Url.exists_of_bind_eq_ok h
    cases hread : Url.ofText text.toList with
    | error e =>
      rw [hread] at hurl
      cases hurl
    | ok url' =>
      rw [hread] at hurl
      obtain rfl : url' = url := Except.ok.inj hurl
      dsimp only at h
      split at h
      · cases h
      next supported =>
      obtain ⟨_, hpool, h⟩ := Url.exists_of_bind_eq_ok h
      cases hcheck : (poolOptions (takeOptions url'.pairs).1).check with
      | error fault =>
        rw [hcheck] at hpool
        cases hpool
      | ok =>
        cases h
        exact ⟨url', rfl, by simpa using supported, hcheck, rfl⟩
  · rintro ⟨url, hurl, hscheme, hpool, rfl⟩
    exact ofUrl_eq hurl hscheme hpool

/-- What is known of a configuration that was read. -/
theorem exists_of_ofUrl (h : ofUrl text = .ok c) : ∃ url, Url.ofText text.toList = .ok url ∧
    isSupported url.scheme = true ∧ c.connectionString = String.ofList (stored url).text ∧
    c.database? = databaseOf (stored url) := by
  obtain ⟨url, hurl, hscheme, -, rfl⟩ := ofUrl_eq_ok_iff.mp h
  exact ⟨url, hurl, hscheme, rfl, rfl⟩

/-- **A connection string gives itself.** For every database URL with two slashes that is accepted, its
    connection string is accepted, and gives the same connection string and the same database, without
    logging and without pool options. The URL changes in its scheme and its query only, and of the pairs
    in its query all stay that are no options. -/
theorem ofUrl_connectionString {scheme rest : List Char}
    (form : text.toList = scheme ++ ':' :: '/' :: '/' :: rest) (hscheme : ':' ∉ scheme)
    (h : ofUrl text = .ok c) :
    ofUrl c.connectionString = .ok ⟨c.connectionString, c.database?, false, .unset⟩ ∧
      ∃ url url', Url.ofText text.toList = .ok url ∧ Url.ofText c.connectionString.toList = .ok url' ∧
        url' = { url with scheme := "mysql".toList, query? := url'.query? } ∧
        url'.pairs = url.pairs.filter fun p => !optionNames.contains (plainName p.1) := by
  obtain ⟨url, hurl, hsupported, hconnection, hdatabase⟩ := exists_of_ofUrl h
  have server : url.authority? ≠ none := Url.authority?_ne_none hscheme (form ▸ hurl)
  have settled : url.Settled := by
    rcases eq_of_isSupported hsupported with hmysql | hmariadb
    · exact Url.settled_of_ofText hurl (by rw [hmysql]; decide) (by rw [hmysql]; decide) server
    · exact Url.settled_of_ofText hurl (by rw [hmariadb]; decide) (by rw [hmariadb]; decide) server
  have hstored := stored_eq settled
  have reread : Url.ofText c.connectionString.toList = .ok (stored url) := by
    rw [hconnection, String.toList_ofList]
    refine Url.ofText_text ?_ (stored_settled settled)
    rw [hstored]
    exact foreign_mysql
  have supported : isSupported (stored url).scheme = true := by
    rw [hstored]
    show isSupported "mysql".toList = true
    decide
  have noOptions : (takeOptions (stored url).pairs).1 = [] := by
    rw [pairs_stored settled, takeOptions_snd]
  refine ⟨?_, url, stored url, hurl, reread, ?_, pairs_stored settled⟩
  · rw [ofUrl_eq reread supported (by rw [noOptions]; rfl), stored_stored settled, noOptions, hconnection,
      hdatabase]
    rfl
  · rw [hstored]

/-- A URL with an option, in capital letters, and a parameter of the client. -/
def loggingUrl : Url :=
  ⟨"mariadb".toList, some ⟨[], [], "h".toList, none⟩, "/blog".toList,
    some "LOG_SQL=TRUE&charset=x".toList, none⟩

theorem pairs_loggingUrl : loggingUrl.pairs = [("LOG_SQL", "TRUE"), ("charset", "x")] :=
  Form.read_write [("LOG_SQL", "TRUE"), ("charset", "x")]

theorem ofUrl_logging : ofUrl "mariadb://h/blog?LOG_SQL=TRUE&charset=x" =
    .ok ⟨"mysql://h/blog?charset=x", some "blog", true, .unset⟩ := by
  have hurl : Url.ofText "mariadb://h/blog?LOG_SQL=TRUE&charset=x".toList = .ok loggingUrl := by decide
  have hoptions : takeOptions loggingUrl.pairs = ([("log_sql", "TRUE")], [("charset", "x")]) := by
    rw [pairs_loggingUrl]
    decide
  have hstored : stored loggingUrl = ⟨"mysql".toList, some ⟨[], [], "h".toList, none⟩, "/blog".toList,
      some "charset=x".toList, none⟩ := by
    rw [stored, hoptions]
    decide
  rw [ofUrl_eq hurl (by decide) (by rw [hoptions]; decide), hstored, hoptions]
  decide

theorem ofUrl_connectionString_logging :
    ofUrl "mariadb://h/blog?LOG_SQL=TRUE&charset=x" =
        .ok ⟨"mysql://h/blog?charset=x", some "blog", true, .unset⟩ ∧
      ofUrl "mysql://h/blog?charset=x" = .ok ⟨"mysql://h/blog?charset=x", some "blog", false, .unset⟩ := by
  have form : "mariadb://h/blog?LOG_SQL=TRUE&charset=x".toList =
      "mariadb".toList ++ ':' :: '/' :: '/' :: "h/blog?LOG_SQL=TRUE&charset=x".toList := by decide
  exact ⟨ofUrl_logging, (ofUrl_connectionString form (by decide) ofUrl_logging).1⟩

end SqlMapper.DatabaseConfig
