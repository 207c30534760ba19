import SqlMapper.Proofs.Model.RowChoice

/-!
# The form of an update

An update names the table, assigns at least one value, and ends with the clauses that choose its rows, each
with something in it. The statement that is rendered for a record has this form if the record holds a value;
for an empty record nothing stands after SET.

* `UpdateStatement`: an update by its parts, and `UpdateStatement.text` its text.
* `UpdateStatement.ofRecord`: the update that is rendered for a record that holds a value.
* `updateSql_hasForm_iff`: when the rendered statement has the form of an update.
-/

namespace SqlMapper

/-! ## Specification -/

/-- An update by its parts: a table, at least one assignment, and the clauses that choose the rows, of which
    none is empty. -/
structure UpdateStatement where
  table : String
  assignments : List (String × Value)
  rows : RowChoice
  assigns : assignments ≠ []
  condition_ne : ∀ condition ∈ rows.condition?, condition ≠ ""
  ordering_ne : ∀ ordering ∈ rows.ordering?, ordering ≠ []

namespace UpdateStatement

/-- A column with the value that it is to have. -/
def assignment (p : String × Value) : String :=
  Dialect.backticked p.1 ++ "=" ++ Dialect.mysql.literal p.2

/-- The assignments stand with commas between; after them stand WHERE with a condition, ORDER BY with a list
    of fields, and LIMIT with a number, in this order and each if it is there. -/
def text (u : UpdateStatement) : String :=
  "UPDATE " ++ Dialect.backticked u.table ++ " SET " ++ commaList (u.assignments.map assignment) ++
    u.rows.text

/-- The update that is rendered for a record that holds a value. -/
def ofRecord (table : String) (values : Record) (c : Clauses) (filled : values.pairs ≠ []) :
    UpdateStatement where
  table := table
  assignments := values.pairs
  rows := c.rows
  assigns := filled
  condition_ne condition h := by simpa using (Option.mem_filter_iff.mp h).2
  ordering_ne ordering h := by simpa using (Option.mem_filter_iff.mp h).2

end UpdateStatement

/-! ## Rendering -/

section Rendering

variable {table : String} {values : Record} {c : Clauses} {overrides : Option Clauses}

theorem text_ofRecord (filled : values.pairs ≠ []) :
    (UpdateStatement.ofRecord table values (c.laidOver overrides) filled).text =
      Dialect.mysql.updateSql table values c overrides :=
  (Dialect.updateSql_eq table values c overrides).symm

theorem updateSql_of_isEmpty (empty : values.pairs = []) :
    Dialect.mysql.updateSql table values c overrides =
      "UPDATE " ++ Dialect.backticked table ++ " SET " ++ (c.laidOver overrides).rows.text := by
  rw [Dialect.updateSql_eq, Dialect.assignments, empty]
  simp [commaList]

/-! ## What stands after SET -/

theorem RowChoice.head_text (rows : RowChoice) : ∀ x ∈ rows.text.toList.head?, x = ' ' := by
  obtain ⟨condition?, ordering?, limit?⟩ := rows
  rcases condition? with _ | condition <;> rcases ordering? with _ | fields <;> rcases limit? with _ | n <;>
    simp [text]

/-- Assignments begin with the quote of a column. -/
theorem UpdateStatement.head_assignments (u : UpdateStatement) :
    (commaList (u.assignments.map assignment)).toList.head? = some '`' := by
  match h : u.assignments with
  | [] => exact absurd h u.assigns
  | [p] => simp [commaList, assignment, Dialect.backticked]
  | p :: q :: rest => simp [commaList, assignment, Dialect.backticked]

/-- Without assignments there are only clauses after SET, and clauses do not begin with a column. -/
theorem UpdateStatement.text_ne_of_no_assignment (u : UpdateStatement) (rows : RowChoice) :
    u.text ≠ "UPDATE " ++ Dialect.backticked u.table ++ " SET " ++ rows.text := by
  intro h
  have same : (commaList (u.assignments.map assignment) ++ u.rows.text).toList = rows.text.toList := by
    simpa [text, String.append_assoc, String.ext_iff] using h
  have quote : rows.text.toList.head? = some '`' := by
    simp [← same, List.head?_append, u.head_assignments]
  simpa using rows.head_text '`' quote

/-- **A rendered update.** For every table, clauses and overrides, the statement rendered for a record has
    the form of an update exactly if the record is not empty. Then it assigns the values of the record to
    their columns, and ends with the clauses of the call laid over those of the dataset. -/
theorem updateSql_hasForm_iff (table : String) (values : Record) (c : Clauses)
    (overrides : Option Clauses) :
    let sql := Dialect.mysql.updateSql table values c overrides
    ((∃ u : UpdateStatement, u.table = table ∧ u.text = sql) ↔ values.pairs ≠ []) ∧
    ((∃ u : UpdateStatement, u.table = table ∧ u.assignments = values.pairs ∧
        u.rows = (c.laidOver overrides).rows ∧ u.text = sql) ↔ values.pairs ≠ []) := by
  intro sql
  refine ⟨⟨?_, fun filled => ⟨.ofRecord table values _ filled, rfl, text_ofRecord filled⟩⟩,
    ⟨?_, fun filled => ⟨.ofRecord table values _ filled, rfl, rfl, rfl, text_ofRecord filled⟩⟩⟩
  · rintro ⟨u, rfl, text⟩ empty
    exact u.text_ne_of_no_assignment _ (text.trans (updateSql_of_isEmpty empty))
  · rintro ⟨u, -, assignments, -, -⟩ empty
    exact u.assigns (assignments.trans empty)

/-- An empty record makes an update that assigns nothing. -/
theorem not_hasForm_updateSql_empty :
    Dialect.mysql.updateSql "posts" .empty .none none = "UPDATE `posts` SET " ∧
      ¬ ∃ u : UpdateStatement, u.table = "posts" ∧
        u.text = Dialect.mysql.updateSql "posts" .empty .none none := by
  refine ⟨by decide +kernel, ?_⟩
  rintro ⟨u, table, text⟩
  rw [updateSql_of_isEmpty rfl, ← table] at text
  exact u.text_ne_of_no_assignment _ text

end Rendering

end SqlMapper
