import SqlMapper.Proofs.Database.Adapter

/-!
# Exchanges with the driver

What is sent on connections, and what comes back. All else that a computation asks for, the taking of
connections, the log and the marks of transactions, is no business of the driver's statements.

* `Exchange`, `exchanges`: what was sent on connections, in order, with the replies.
* `eq_of_replies`: on a connection, a program is determined by the replies.
-/

namespace SqlMapper

/-- What is sent on a connection. A statement with rows is sent when its result is started, whether or not
    a fetch is made. -/
inductive Sent where
  | statement (sql : String)
  | tableList
deriving DecidableEq

/-- The text that is sent, where it is the caller's. -/
def Sent.text? : Sent → Option String
  | statement sql => some sql
  | tableList => none

/-- What the driver says to what was sent. -/
inductive Reply where
  | outcome (x : Except Stop Outcome)
  | rows (x : Except Stop RowStream)
  | names (x : Except Stop (List String))

/-- What was sent on a connection, with the reply. -/
structure Exchange where
  sent : Sent
  reply : Reply

/-- The exchange that an event is, if it is one. -/
def Event.exchange? : Event → Option Exchange
  | ⟨.execute _ sql, x⟩ => some ⟨.statement sql, .outcome x⟩
  | ⟨.query _ sql _, x⟩ => some ⟨.statement sql, .rows x⟩
  | ⟨.listTables _, x⟩ => some ⟨.tableList, .names x⟩
  | _ => none

/-- The exchanges among some events. -/
def exchanges (es : List Event) : List Exchange := es.filterMap Event.exchange?

/-- What was sent, on all connections. -/
def sent (es : List Event) : List Sent := (exchanges es).map Exchange.sent

/-- The replies, from all connections. -/
def replies (es : List Event) : List Reply := (exchanges es).map Exchange.reply

variable {es es' : List Event} {e : Event}

@[simp] theorem exchanges_append : exchanges (es ++ es') = exchanges es ++ exchanges es' :=
  List.filterMap_append

theorem sent_append : sent (es ++ es') = sent es ++ sent es' := by
  rw [sent, exchanges_append, List.map_append]
  rfl

theorem sent_cons_of_none (h : e.exchange? = none) : sent (e :: es) = sent es := by
  unfold sent exchanges
  rw [List.filterMap_cons_none h]

theorem sent_cons_of_some {x : Exchange} (h : e.exchange? = some x) :
    sent (e :: es) = x.sent :: sent es := by
  unfold sent exchanges
  rw [List.filterMap_cons_some h, List.map_cons]

/-! ## Statements -/

section Statements

variable {conn : ConnectionId} {sql : String}

@[simp] theorem exchanges_sending {x : Except Stop Outcome} :
    exchanges (Adapter.sending conn sql x) = [⟨.statement sql, .outcome x⟩] := rfl

@[simp] theorem exchanges_reading {fetches : Bool} {left : RowStream → RowStream}
    {x : Except Stop RowStream} :
    exchanges (Adapter.reading conn sql fetches left x) = [⟨.statement sql, .rows x⟩] := by
  cases x with
  | error s => rfl
  | ok stream =>
    cases fetches with
    | false => rfl
    | true => rfl

end Statements

/-! ## Determinism -/

/-- **The replies decide.** If a program only sends statements on a connection, then two runs of it with
    the same replies are the same run. -/
theorem Program.eq_of_replies {α : Type} {p : Program α} {conn : ConnectionId} {a a' : α}
    (run : p.Runs es a) (run' : p.Runs es' a') (on : ∀ e ∈ es, e.On conn)
    (same : replies es = replies es') : es = es' ∧ a = a' := by
  induction p generalizing es es' with
  | done b =>
    obtain ⟨rfl, rfl⟩ := run
    obtain ⟨rfl, rfl⟩ := run'
    exact ⟨rfl, rfl⟩
  | ask r next ih =>
    obtain ⟨x, rest, rfl, hrest⟩ := run
    obtain ⟨y, rest', rfl, hrest'⟩ := run'
    obtain ⟨hfirst, hon⟩ := List.forall_mem_cons.mp on
    -- both runs get the same answer here: it is their first reply, or there is only one answer
    have hanswer : x = y ∧ replies rest = replies rest' := by
      cases r with
      | acquire | release | enter | leave => exact hfirst.elim
      | log | abandon => exact ⟨rfl, same⟩
      | execute | query | listTables =>
        obtain ⟨hreply, hreplies⟩ := List.cons.inj same
        cases hreply
        exact ⟨rfl, hreplies⟩
    obtain ⟨rfl, hreplies⟩ := hanswer
    obtain ⟨rfl, rfl⟩ := ih x hrest hrest' hon hreplies
    exact ⟨rfl, rfl⟩

end SqlMapper
