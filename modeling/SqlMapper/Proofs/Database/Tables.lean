import Mathlib.Data.Finset.Basic
import Mathlib.Data.Finset.Dedup
import SqlMapper.Proofs.Database.Exchange
import SqlMapper.Proofs.Sql.Statement

/-!
# Servers with tables

What becomes of the tables of a server while a computation runs on it. A server reads in a statement
which table it creates or drops. Every request may fail, and one that fails leaves the tables as they
were; a table that is there cannot be created, and one that is not there cannot be dropped.

* `TableReader`: what a server reads in statements.
* `TableReader.mysql`: what MySQL's lexer lets a server read in them.
* `TableReader.Serves`: answers of a server, with its tables before and after.
* `TableReader.Performs`: what a task may send, how it may end, and the tables that it leaves.
* `mysql_understands`: statements about a table are read as what they say, if its name has no backtick.
* `Requests.bind`, `requests_execute`, `requests_listTables`: what a task performs, request by request.
-/

namespace SqlMapper

/-! ## Reading statements -/

/-- What a statement does to the tables of a server. -/
inductive TableChange where
  | create (name : String)
  | drop (name : String)
deriving DecidableEq

namespace TableChange

/-- Whether the change can be made. -/
def Possible (tables : Finset String) : TableChange → Prop
  | create name => name ∉ tables
  | drop name => name ∈ tables

/-- The tables after the change. -/
def applyTo (tables : Finset String) : TableChange → Finset String
  | create name => insert name tables
  | drop name => tables.erase name

end TableChange

/-- What a server reads in a statement. Most statements leave the tables alone. -/
structure TableReader where
  change? : String → Option TableChange

namespace TableReader

/-- The statements about a table are read as what they say. -/
structure Understands (v : TableReader) (t : TableSchema) : Prop where
  create : v.change? (Dialect.mysql.createTableSql t) = some (.create t.name)
  drop : v.change? (Dialect.mysql.dropTableSql t.name) = some (.drop t.name)

/-- The change that the tokens of a statement begin with. -/
def changeOfTokens : List Sql.Token → Option TableChange
  | .word "CREATE" :: .word "TABLE" :: .name name :: _ => some (.create name)
  | .word "DROP" :: .word "TABLE" :: .name name :: _ => some (.drop name)
  | _ => none

/-- A server that cuts statements into tokens as MySQL does. -/
def mysql : TableReader := ⟨fun sql => (Sql.tokenize sql).bind changeOfTokens⟩

/-! ## Answers of a server -/

/-- The answer, or an error in its place: nobody panics, and nothing is given up. -/
def Answered {α : Type} (x : Except Stop α) : Prop := ∀ s, x = .error s → ∃ e, s = .failed e

/-- How a server with the given tables may answer. -/
def Answers (v : TableReader) (tables : Finset String) : Event → Prop
  | ⟨.acquire, x⟩ => Answered x
  | ⟨.execute _ sql, x⟩ => Answered x ∧
    ∀ o, x = .ok o → ∀ change, v.change? sql = some change → change.Possible tables
  | ⟨.query _ _ _, x⟩ => Answered x
  | ⟨.listTables _, x⟩ => Answered x ∧ ∀ names, x = .ok names → names.toFinset = tables
  | ⟨.abandon _ _, _⟩ | ⟨.release _ _, _⟩ | ⟨.enter, _⟩ | ⟨.leave _, _⟩ | ⟨.log _, _⟩ => True

/-- The tables after an event. -/
def after (v : TableReader) (tables : Finset String) : Event → Finset String
  | ⟨.execute _ sql, .ok _⟩ => (v.change? sql).elim tables (·.applyTo tables)
  | _ => tables

/-- A server with the tables `start` may answer so, and then has the tables `finish`. -/
def Serves (v : TableReader) : Finset String → List Event → Finset String → Prop
  | start, [], finish => finish = start
  | start, e :: es, finish => v.Answers start e ∧ v.Serves (v.after start e) es finish

/-- On a server with the tables `start` the task may send `ss` and end with `r`, and leave the tables
    `finish`. -/
def Performs (v : TableReader) {α : Type} (t : Task Program α) (start : Finset String)
    (ss : List Sent) (r : Except Stop α) (finish : Finset String) : Prop :=
  ∃ es, t.run.Runs es r ∧ v.Serves start es finish ∧ sent es = ss

/-! ## Statements about tables -/

theorem reads_createTable {name : String} (h : '`' ∉ name.toList) :
    Sql.Reads ("CREATE TABLE " ++ Dialect.mysql.quoteIdentifier name).toList
      [.word "CREATE", .word "TABLE", .name name] := by
  have hcreate : Sql.Reads "CREATE".toList [.word "CREATE"] := Sql.Reads.word (by decide) (by decide)
  have htable : Sql.Reads "TABLE".toList [.word "TABLE"] := Sql.Reads.word (by decide) (by decide)
  have hread := hcreate.spaced (htable.spaced (Sql.reads_name h))
  simpa using hread

theorem reads_dropTable {name : String} (h : '`' ∉ name.toList) :
    Sql.Reads ("DROP TABLE " ++ Dialect.mysql.quoteIdentifier name).toList
      [.word "DROP", .word "TABLE", .name name] := by
  have hdrop : Sql.Reads "DROP".toList [.word "DROP"] := Sql.Reads.word (by decide) (by decide)
  have htable : Sql.Reads "TABLE".toList [.word "TABLE"] := Sql.Reads.word (by decide) (by decide)
  have hread := hdrop.spaced (htable.spaced (Sql.reads_name h))
  simpa using hread

theorem change?_mysql (sql : String) :
    mysql.change? sql = (Sql.tokenize sql).bind changeOfTokens := rfl

/-- **Statements about a table are understood** by a server that reads as MySQL does, if the table's name
    has no backtick, and if its definition, whose types are the caller's own text, leaves nothing open. -/
theorem mysql_understands {t : TableSchema} (hname : '`' ∉ t.name.toList)
    (closed : (Sql.tokenize (Dialect.mysql.createTableSql t)).isSome) : mysql.Understands t where
  create := by
    obtain ⟨body, hsql⟩ : ∃ body, Dialect.mysql.createTableSql t =
        "CREATE TABLE " ++ Dialect.mysql.quoteIdentifier t.name ++ (" (" ++ body) := by
      unfold Dialect.createTableSql
      simp only [String.append_assoc]
      exact ⟨_, rfl⟩
    have hbody : Sql.Delimited (" (" ++ body).toList := by
      rw [String.toList_append]
      exact Sql.delimited_cons (by decide)
    have htokens := (reads_createTable hname).tokenize_append hbody
    rw [hsql, htokens, Option.isSome_map] at closed
    obtain ⟨ts, hts⟩ := Option.isSome_iff_exists.mp closed
    rw [change?_mysql, hsql, htokens, hts]
    simp [changeOfTokens]
  drop := by
    unfold Dialect.dropTableSql
    rw [change?_mysql, (reads_dropTable hname).tokenize_eq]
    simp [changeOfTokens]

/-! ## One answer after the other -/

section Serving

variable {v : TableReader} {start finish : Finset String} {es es' : List Event}

theorem serves_append :
    v.Serves start (es ++ es') finish ↔ ∃ mid, v.Serves start es mid ∧ v.Serves mid es' finish := by
  induction es generalizing start with
  | nil => simp [Serves]
  | cons e es ih => simp only [List.cons_append, Serves, ih, and_assoc, exists_and_left]

/-! ## What a task performs -/

variable {α β : Type} {ss : List Sent}

theorem performs_pure {a : α} {r : Except Stop α} :
    v.Performs (pure a) start ss r finish ↔ ss = [] ∧ r = .ok a ∧ finish = start := by
  constructor
  · rintro ⟨es, run, serves, rfl⟩
    obtain ⟨rfl, rfl⟩ := Task.runs_pure.mp run
    exact ⟨rfl, rfl, serves⟩
  · rintro ⟨rfl, rfl, rfl⟩
    exact ⟨[], Task.runs_pure.mpr ⟨rfl, rfl⟩, rfl, rfl⟩

theorem performs_bind {t : Task Program β} {f : β → Task Program α} {r : Except Stop α} :
    v.Performs (t >>= f) start ss r finish ↔
      (∃ s, v.Performs t start ss (.error s) finish ∧ r = .error s) ∨
        ∃ a ss₁ ss₂ mid, v.Performs t start ss₁ (.ok a) mid ∧ v.Performs (f a) mid ss₂ r finish ∧
          ss = ss₁ ++ ss₂ := by
  constructor
  · rintro ⟨es, run, serves, rfl⟩
    rcases Task.runs_bind.mp run with ⟨s, stopped, rfl⟩ | ⟨a, es₁, es₂, run₁, run₂, rfl⟩
    · exact .inl ⟨s, ⟨es, stopped, serves, rfl⟩, rfl⟩
    · obtain ⟨mid, serves₁, serves₂⟩ := serves_append.mp serves
      exact .inr ⟨a, _, _, mid, ⟨es₁, run₁, serves₁, rfl⟩, ⟨es₂, run₂, serves₂, rfl⟩, sent_append⟩
  · rintro (⟨s, ⟨es, run, serves, rfl⟩, rfl⟩ |
      ⟨a, _, _, mid, ⟨es₁, run₁, serves₁, rfl⟩, ⟨es₂, run₂, serves₂, rfl⟩, rfl⟩)
    · exact ⟨es, Task.runs_bind.mpr (.inl ⟨s, run, rfl⟩), serves, rfl⟩
    · exact ⟨es₁ ++ es₂, Task.runs_bind.mpr (.inr ⟨a, es₁, es₂, run₁, run₂, rfl⟩),
        serves_append.mpr ⟨mid, serves₁, serves₂⟩, sent_append⟩

/-- A request that fails; it is not even sent if there is no connection to be had. -/
def Failing (request : Sent) (ss : List Sent) (r : Except Stop α) : Prop :=
  (ss = [] ∨ ss = [request]) ∧ ∃ e, r = .error (.failed e)

theorem answered_ok {a : α} : Answered (.ok a : Except Stop α) := by
  rintro s ⟨⟩

theorem answered_failed {e : Error} : Answered (.error (.failed e) : Except Stop α) := by
  rintro s ⟨⟩
  exact ⟨e, rfl⟩

/-- A task that makes one request. If the request fails, then so does the task, and the tables stay as
    they are; else it ends with an answer and with tables for which `P` holds. -/
def Requests (v : TableReader) (t : Task Program α) (start : Finset String) (request : Sent)
    (P : α → Finset String → Prop) : Prop :=
  ∀ ss r finish, v.Performs t start ss r finish ↔
    (Failing request ss r ∧ finish = start) ∨ ss = [request] ∧ ∃ a, r = .ok a ∧ P a finish

namespace Requests

variable {t : Task Program β} {request : Sent} {P Q : β → Finset String → Prop}
  (h : v.Requests t start request P)

include h

theorem congr (hPQ : ∀ b finish, P b finish ↔ Q b finish) : v.Requests t start request Q := by
  intro ss r finish
  rw [h]
  simp only [hPQ]

/-- After a request that fails the rest of a task does nothing. -/
theorem bind {f : β → Task Program α} {r : Except Stop α} :
    v.Performs (t >>= f) start ss r finish ↔
      (Failing request ss r ∧ finish = start) ∨
        ∃ b mid ss', P b mid ∧ v.Performs (f b) mid ss' r finish ∧ ss = request :: ss' := by
  rw [performs_bind]
  constructor
  · rintro (⟨s, first, rfl⟩ | ⟨b, ss₁, ss₂, mid, first, rest, rfl⟩)
    · rcases (h _ _ _).mp first with ⟨⟨hss, e, ⟨⟩⟩, rfl⟩ | ⟨-, b, ⟨⟩, -⟩
      exact .inl ⟨⟨hss, e, rfl⟩, rfl⟩
    · rcases (h _ _ _).mp first with ⟨⟨-, e, ⟨⟩⟩, -⟩ | ⟨rfl, _, ⟨⟩, hb⟩
      exact .inr ⟨b, mid, ss₂, hb, rest, rfl⟩
  · rintro (⟨⟨hss, e, rfl⟩, rfl⟩ | ⟨b, mid, ss', hb, rest, rfl⟩)
    · exact .inl ⟨.failed e, (h _ _ _).mpr (.inl ⟨⟨hss, e, rfl⟩, rfl⟩), rfl⟩
    · exact .inr ⟨b, _, ss', mid, (h _ _ _).mpr (.inr ⟨rfl, b, rfl, hb⟩), rest, rfl⟩

/-- The answer may be turned into another one. -/
theorem map (g : β → α) : v.Requests (t >>= fun b => pure (g b)) start request
    fun a finish => ∃ b, P b finish ∧ a = g b := by
  intro ss r finish
  rw [h.bind]
  simp only [performs_pure]
  refine or_congr Iff.rfl ?_
  constructor
  · rintro ⟨b, mid, ss', hb, ⟨rfl, rfl, rfl⟩, rfl⟩
    exact ⟨rfl, g b, rfl, b, hb, rfl⟩
  · rintro ⟨rfl, _, rfl, b, hb, rfl⟩
    exact ⟨b, finish, [], hb, ⟨rfl, rfl, rfl⟩, rfl⟩

end Requests

/-- A statement brings about the change that is read in it. -/
theorem requests_execute {sql : String} {change : TableChange} (h : v.change? sql = some change) :
    v.Requests (Adapter.execute sql) start (.statement sql)
      fun _ finish => change.Possible start ∧ finish = change.applyTo start := by
  have changed (conn : ConnectionId) (o : Outcome) :
      v.after start ⟨.execute conn sql, .ok o⟩ = change.applyTo start := by
    show (v.change? sql).elim _ _ = _
    rw [h]
    rfl
  intro ss r finish
  constructor
  · rintro ⟨es, run, serves, rfl⟩
    rcases Adapter.runs_execute.mp run with ⟨s, rfl, rfl⟩ | ⟨conn, rfl⟩
    · obtain ⟨answered, rfl⟩ := serves
      obtain ⟨e, rfl⟩ := answered s rfl
      exact .inl ⟨⟨.inl rfl, e, rfl⟩, rfl⟩
    · obtain ⟨-, -, ⟨answered, possible⟩, -, rfl⟩ := serves
      cases r with
      | error s =>
        obtain ⟨e, rfl⟩ := answered s rfl
        exact .inl ⟨⟨.inr rfl, e, rfl⟩, rfl⟩
      | ok o => exact .inr ⟨rfl, o, rfl, possible o rfl change h, changed conn o⟩
  · rintro (⟨⟨rfl | rfl, e, rfl⟩, rfl⟩ | ⟨rfl, o, rfl, possible, rfl⟩)
    · exact ⟨_, Adapter.runs_execute.mpr (.inl ⟨.failed e, rfl, rfl⟩), ⟨answered_failed, rfl⟩, rfl⟩
    · exact ⟨_, Adapter.runs_execute.mpr (.inr ⟨0, rfl⟩),
        ⟨answered_ok, trivial, ⟨answered_failed, by rintro o ⟨⟩⟩, trivial, rfl⟩, rfl⟩
    · refine ⟨_, Adapter.runs_execute.mpr (.inr ⟨0, rfl⟩),
        ⟨answered_ok, trivial, ⟨answered_ok, ?_⟩, trivial, (changed 0 o).symm⟩, rfl⟩
      intro _ _ change' h'
      rw [h] at h'
      exact Option.some.inj h' ▸ possible

/-- The listing of the tables brings up all of them. -/
theorem requests_listTables : v.Requests Adapter.listTables start .tableList
    fun names finish => names.toFinset = start ∧ finish = start := by
  intro ss r finish
  constructor
  · rintro ⟨es, run, serves, rfl⟩
    rcases Adapter.runs_listTables.mp run with ⟨s, rfl, rfl⟩ | ⟨conn, rfl⟩
    · obtain ⟨answered, rfl⟩ := serves
      obtain ⟨e, rfl⟩ := answered s rfl
      exact .inl ⟨⟨.inl rfl, e, rfl⟩, rfl⟩
    · obtain ⟨-, ⟨answered, listed⟩, -, rfl⟩ := serves
      cases r with
      | error s =>
        obtain ⟨e, rfl⟩ := answered s rfl
        exact .inl ⟨⟨.inr rfl, e, rfl⟩, rfl⟩
      | ok names => exact .inr ⟨rfl, names, rfl, listed names rfl, rfl⟩
  · rintro (⟨⟨rfl | rfl, e, rfl⟩, rfl⟩ | ⟨rfl, names, rfl, listed, rfl⟩)
    · exact ⟨_, Adapter.runs_listTables.mpr (.inl ⟨.failed e, rfl, rfl⟩), ⟨answered_failed, rfl⟩, rfl⟩
    · exact ⟨_, Adapter.runs_listTables.mpr (.inr ⟨0, rfl⟩),
        ⟨answered_ok, ⟨answered_failed, by rintro names ⟨⟩⟩, trivial, rfl⟩, rfl⟩
    · exact ⟨_, Adapter.runs_listTables.mpr (.inr ⟨0, rfl⟩),
        ⟨answered_ok, ⟨answered_ok, by rintro _ ⟨⟩; exact listed⟩, trivial, rfl⟩, rfl⟩

/-! ## Operations on tables -/

theorem requests_tableExists {name : String} :
    v.Requests (Adapter.tableExists name) start .tableList
      fun found finish => found = decide (name ∈ start) ∧ finish = start := by
  have contains {names : List String} (h : names.toFinset = start) :
      names.contains name = decide (name ∈ start) := by
    rw [← h, Bool.eq_iff_iff]
    simp
  refine (requests_listTables.map (·.contains name)).congr fun found finish => ?_
  constructor
  · rintro ⟨names, ⟨listed, rfl⟩, rfl⟩
    exact ⟨contains listed, rfl⟩
  · rintro ⟨rfl, rfl⟩
    exact ⟨finish.toList, ⟨finish.toList_toFinset, rfl⟩, (contains finish.toList_toFinset).symm⟩

/-- A statement whose outcome is not asked for. -/
theorem requests_change {sql : String} {change : TableChange} (h : v.change? sql = some change) :
    v.Requests (do let _ ← Adapter.execute sql) start (.statement sql)
      fun _ finish => change.Possible start ∧ finish = change.applyTo start :=
  ((requests_execute h).map fun _ => ()).congr fun _ _ =>
    ⟨fun ⟨_, changed, _⟩ => changed, fun changed => ⟨⟨0, none⟩, changed, rfl⟩⟩

variable {t : TableSchema}

theorem requests_createTable (h : v.Understands t) :
    v.Requests (Adapter.createTable t) start (.statement (Dialect.mysql.createTableSql t))
      fun _ finish => t.name ∉ start ∧ finish = insert t.name start :=
  requests_change h.create

theorem requests_dropTable (h : v.Understands t) :
    v.Requests (Adapter.dropTable t.name) start (.statement (Dialect.mysql.dropTableSql t.name))
      fun _ finish => t.name ∈ start ∧ finish = start.erase t.name :=
  requests_change h.drop

end Serving

end TableReader

end SqlMapper
