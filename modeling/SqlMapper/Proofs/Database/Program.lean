import SqlMapper.Database.Transaction

/-!
# Programs of requests

The operations of the library are written for every kind of surroundings. Here the surroundings are left
open: a computation becomes the tree of the requests that it makes, with a branch for every answer. What
a computation does is then the set of its runs, over all answers of the pool and of the driver; a
request that is given up while it waits is one of the answers.

* `Program`: trees of requests, as surroundings of the library.
* `Program.Runs`: a run from the first request to the result.
* `Program.Reaches`: the beginning of a run.
* `runs_bind`: a run of a sequence is a run of its first part and one of the rest.
* `Program.Reaches.exists_runs`: the beginning of a run can be completed.
-/

namespace SqlMapper

/-! ## Requests -/

/-- What a computation may ask of its surroundings. -/
inductive Request where
  | acquire
  | execute (conn : ConnectionId) (sql : String)
  | query (conn : ConnectionId) (sql : String) (fetches : Bool)
  | abandon (conn : ConnectionId) (left : RowStream)
  | listTables (conn : ConnectionId)
  | release (conn : ConnectionId) (discard : Bool)
  | enter
  | leave (id : TransactionId)
  | log (sql : String)

/-- What a request is answered with. -/
abbrev Request.Answer : Request → Type
  | acquire => Except Stop ConnectionId
  | execute _ _ => Except Stop Outcome
  | query _ _ _ => Except Stop RowStream
  | abandon _ _ => Unit
  | listTables _ => Except Stop (List String)
  | release _ _ => Unit
  | enter => TransactionId
  | leave _ => Unit
  | log _ => Unit

/-- Every request can be answered. -/
instance (r : Request) : Nonempty r.Answer := by
  cases r with
  | enter => exact ⟨⟨0⟩⟩
  | abandon | release | leave | log => exact ⟨()⟩
  | acquire | execute | query | listTables => exact ⟨.error .cancelled⟩

/-- A request with its answer. -/
structure Event where
  request : Request
  answer : request.Answer

/-! ## Programs -/

/-- A computation as the tree of its requests. -/
inductive Program (α : Type) where
  | done (a : α)
  | ask (r : Request) (next : r.Answer → Program α)

namespace Program

variable {α β : Type}

/-- One computation after the other. -/
protected def bind : Program α → (α → Program β) → Program β
  | done a, f => f a
  | ask r next, f => ask r fun x => (next x).bind f

instance : Monad Program where
  pure := done
  bind := Program.bind

@[simp] theorem done_bind (a : α) (f : α → Program β) : (done a >>= f) = f a := rfl

@[simp] theorem ask_bind (r : Request) (next : r.Answer → Program α) (f : α → Program β) :
    (ask r next >>= f) = ask r fun x => next x >>= f := rfl

theorem bind_done (p : Program α) : (p >>= done) = p := by
  induction p with
  | done a => rfl
  | ask r next ih => exact congrArg (ask r) (funext ih)

theorem bind_assoc {γ : Type} (p : Program α) (f : α → Program β) (g : β → Program γ) :
    (p >>= f >>= g) = (p >>= fun a => f a >>= g) := by
  induction p with
  | done a => rfl
  | ask r next ih => exact congrArg (ask r) (funext ih)

instance : LawfulMonad Program :=
  LawfulMonad.mk' Program bind_done (fun _ _ => rfl) bind_assoc

/-- The program that makes one request and yields its answer. -/
def request (r : Request) : Program r.Answer := ask r done

/-- Programs are surroundings in which nothing is decided. -/
instance : Backend Program where
  acquire := ExceptT.mk (request .acquire)
  execute conn sql := ExceptT.mk (request (.execute conn sql))
  query conn sql fetches := ExceptT.mk (request (.query conn sql fetches))
  abandon conn left := request (.abandon conn left)
  listTables conn := ExceptT.mk (request (.listTables conn))
  release conn discard := request (.release conn discard)
  enter := request .enter
  leave id := request (.leave id)
  log sql := request (.log sql)

/-! ## Runs -/

/-- The program makes exactly these requests, gets these answers, and yields the result. -/
def Runs : Program α → List Event → α → Prop
  | done a, es, b => es = [] ∧ b = a
  | ask r next, es, b => ∃ x rest, es = ⟨r, x⟩ :: rest ∧ (next x).Runs rest b

/-- After these requests and answers the second program is what is left of the first one. -/
def Reaches : Program α → List Event → Program α → Prop
  | p, [], q => p = q
  | p, e :: es, q => ∃ next, p = ask e.request next ∧ (next e.answer).Reaches es q

@[simp] theorem runs_pure {a b : α} {es : List Event} :
    (pure a : Program α).Runs es b ↔ es = [] ∧ b = a := Iff.rfl

@[simp] theorem runs_done {a b : α} {es : List Event} :
    (done a).Runs es b ↔ es = [] ∧ b = a := Iff.rfl

@[simp] theorem runs_request {r : Request} {es : List Event} {x : r.Answer} :
    (request r).Runs es x ↔ es = [⟨r, x⟩] := by
  constructor
  · rintro ⟨y, rest, rfl, rfl, rfl⟩; rfl
  · rintro rfl; exact ⟨x, [], rfl, rfl, rfl⟩

theorem runs_bind {p : Program α} {f : α → Program β} {es : List Event} {b : β} :
    (p >>= f).Runs es b ↔ ∃ a es₁ es₂, p.Runs es₁ a ∧ (f a).Runs es₂ b ∧ es = es₁ ++ es₂ := by
  induction p generalizing es with
  | done a =>
    constructor
    · intro h; exact ⟨a, [], es, ⟨rfl, rfl⟩, h, rfl⟩
    · rintro ⟨_, _, es₂, ⟨rfl, rfl⟩, h, rfl⟩; exact h
  | ask r next ih =>
    constructor
    · rintro ⟨x, rest, rfl, h⟩
      obtain ⟨a, es₁, es₂, h₁, h₂, rfl⟩ := (ih x).mp h
      exact ⟨a, ⟨r, x⟩ :: es₁, es₂, ⟨x, es₁, rfl, h₁⟩, h₂, rfl⟩
    · rintro ⟨a, _, es₂, ⟨x, rest, rfl, h₁⟩, h₂, rfl⟩
      exact ⟨x, rest ++ es₂, rfl, (ih x).mpr ⟨a, rest, es₂, h₁, h₂, rfl⟩⟩

theorem runs_map {p : Program α} {f : α → β} {es : List Event} {b : β} :
    (f <$> p).Runs es b ↔ ∃ a, p.Runs es a ∧ b = f a := by
  rw [map_eq_pure_bind, runs_bind]
  constructor
  · rintro ⟨a, es₁, es₂, h, ⟨rfl, rfl⟩, rfl⟩; exact ⟨a, by simpa using h, rfl⟩
  · rintro ⟨a, h, rfl⟩; exact ⟨a, es, [], h, ⟨rfl, rfl⟩, by simp⟩

/-- Every program has a run. -/
theorem exists_runs (p : Program α) : ∃ es a, p.Runs es a := by
  induction p with
  | done a => exact ⟨[], a, rfl, rfl⟩
  | ask r next ih =>
    obtain ⟨x⟩ : Nonempty r.Answer := inferInstance
    obtain ⟨es, a, h⟩ := ih x
    exact ⟨⟨r, x⟩ :: es, a, x, es, rfl, h⟩

theorem Reaches.runs {p q : Program α} {es rest : List Event} {a : α} (h : p.Reaches es q)
    (hq : q.Runs rest a) : p.Runs (es ++ rest) a := by
  induction es generalizing p with
  | nil => obtain rfl := h; exact hq
  | cons e es ih =>
    obtain ⟨next, rfl, h⟩ := h
    exact ⟨e.answer, es ++ rest, rfl, ih h⟩

/-- The beginning of a run can be completed. -/
theorem Reaches.exists_runs {p q : Program α} {es : List Event} (h : p.Reaches es q) :
    ∃ rest a, p.Runs (es ++ rest) a := by
  obtain ⟨rest, a, hq⟩ := q.exists_runs
  exact ⟨rest, a, h.runs hq⟩

/-- One more request after the beginning of a run. -/
theorem Reaches.snoc {p : Program α} {es : List Event} {r : Request}
    {next : r.Answer → Program α} (h : p.Reaches es (ask r next)) (x : r.Answer) :
    p.Reaches (es ++ [⟨r, x⟩]) (next x) := by
  induction es generalizing p with
  | nil => obtain rfl := h; exact ⟨next, rfl, rfl⟩
  | cons e es ih =>
    obtain ⟨next', rfl, h⟩ := h
    exact ⟨next', rfl, ih h⟩

end Program

end SqlMapper
