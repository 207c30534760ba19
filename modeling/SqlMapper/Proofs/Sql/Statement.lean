import SqlMapper.Proofs.Calendar.Text
import SqlMapper.Proofs.Sql.Lexer
import SqlMapper.Proofs.Text.Split
import SqlMapper.Sql.Statement

/-!
# Statements read back

No value escapes its place: the tokens of a statement are its keywords, its names, and for each value the
tokens that denote it, whatever characters the value holds.

* `valueTokens`: the tokens that denote a value.
* `reads_literal`: a literal makes these tokens.
* `tokenize_statements`: the tokens of an insertion, of an update and of a condition.
-/

namespace SqlMapper.Sql

/-! ## Specification -/

/-- The tokens of a whole number; the sign is a token of its own. -/
def intTokens : Int → List Token
  | .ofNat n => [.number n]
  | .negSucc n => [.symbol '-', .number (n + 1)]

/-- The tokens that denote a value: truth values are numbers, dates and times are texts. Floats are not
    read here. -/
def valueTokens : Value → List Token
  | .null => [.word "NULL"]
  | .boolean b => [.number (if b then 1 else 0)]
  | .integer n => intTokens n.toInt
  | .float _ => []
  | .timestamp t => [.text (String.ofList (t.text ' '))]
  | .date d => [.text (String.ofList d.text)]
  | .time t => [.text (String.ofList t.text)]
  | .text s => [.text s]
  | .bytes b => [.bytes b]

/-- Tokens with commas between. -/
def separated : List (List Token) → List Token
  | [] => []
  | [ts] => ts
  | ts :: us :: rest => ts ++ .symbol ',' :: separated (us :: rest)

/-- The tokens of an insertion: the keys in order, and for each value the tokens that denote it. -/
def insertTokens (table : String) (r : Record) : List Token :=
  [.word "INSERT", .word "INTO", .name table, .symbol '('] ++
    separated (r.keys.map fun key => [.name key]) ++
    [.symbol ')', .word "VALUES", .symbol '('] ++
    separated (r.pairs.map fun p => valueTokens p.2) ++ [.symbol ')']

/-- The tokens of an update up to its clauses: each key with the tokens that denote its value. -/
def updateTokens (table : String) (r : Record) : List Token :=
  [.word "UPDATE", .name table, .word "SET"] ++
    separated (r.pairs.map fun p => .name p.1 :: .symbol '=' :: valueTokens p.2)

/-- The tokens of a comparison. -/
def conditionTokens (column : String) : Value → List Token
  | .null => [.name column, .word "IS", .word "NULL"]
  | v => .name column :: .symbol '=' :: valueTokens v

/-- The clauses of an update, as they stand at its end. -/
def updateClauses (c : Clauses) : String :=
  Dialect.whereClause c ++ (Dialect.mysql.orderClause c ++ Dialect.limitClause c)

/-! ## Strings -/

section Strings

variable {s rest : List Char}

/-- A text as it stands between single quotes. -/
def escaped (s : List Char) : List Char :=
  Text.replaceChar '\'' ['\'', '\''] (Text.replaceChar '\\' ['\\', '\\'] s)

theorem escaped_cons (c : Char) :
    escaped (c :: s) =
      (if c = '\\' then ['\\', '\\'] else if c = '\'' then ['\'', '\''] else [c]) ++ escaped s := by
  by_cases hb : c = '\\'
  · subst hb; simp [escaped, Text.replaceChar]
  · by_cases hq : c = '\'' <;> simp [escaped, Text.replaceChar, hb, hq]

/-- In a string the lexer takes back what was done to the text. -/
theorem run_escaped {read : List Char} :
    (Lexer.text '\'' read).run (escaped s ++ '\'' :: rest) =
      (Lexer.quoted '\'' (read ++ s)).run rest := by
  induction s generalizing read with
  | nil =>
    rw [List.append_nil]
    exact Lexer.run_cons_of_silent rfl
  | cons c s ih =>
    rw [escaped_cons, List.append_assoc, List.append_cons read]
    by_cases hb : c = '\\'
    · subst hb
      exact (Lexer.run_cons_of_silent rfl).trans ((Lexer.run_cons_of_silent rfl).trans ih)
    · by_cases hq : c = '\''
      · subst hq
        exact (Lexer.run_cons_of_silent rfl).trans ((Lexer.run_cons_of_silent rfl).trans ih)
      · have hstep : (Lexer.text '\'' read).step c = ([], .text '\'' (read ++ [c])) := by
          simp [Lexer.step, hb, hq]
        rw [if_neg hb, if_neg hq]
        exact (Lexer.run_cons_of_silent hstep).trans ih

theorem reads_escaped (s : List Char) :
    Reads ('\'' :: escaped s ++ ['\'']) [.text (String.ofList s)] := by
  intro rest hrest
  have hstep : Lexer.between.step '\'' = ([], .text '\'' []) := by decide
  rw [List.cons_append, List.cons_append, List.append_assoc, Lexer.run_cons_of_silent hstep,
    List.singleton_append, run_escaped, (Lexer.complete_quoted _).run hrest, List.nil_append]

/-- A text without backslashes needs no escapes but for quotes. -/
theorem reads_quoteChars (h : '\\' ∉ s) : Reads (quoteChars s) [.text (String.ofList s)] := by
  have hread := reads_escaped s
  rwa [escaped, Text.replaceChar_of_not_mem h] at hread

end Strings

/-! ## Numbers and bytes -/

theorem reads_decimal (n : Nat) : Reads (Number.decimal n) [.number n] := by
  have hread := Reads.digits (Number.decimal_ne_nil n) fun _ => Number.isDigit_of_mem_decimal
  rwa [Number.ofDigits_decimal] at hread

theorem reads_signed (i : Int) : Reads (Number.signed i) (intTokens i) := by
  cases i with
  | ofNat n => exact reads_decimal n
  | negSucc n =>
    intro rest hrest
    have hdigits := reads_decimal (n + 1) rest hrest
    obtain ⟨c, ds, hds⟩ := List.exists_cons_of_ne_nil (Number.decimal_ne_nil (n + 1))
    have hc : c.isDigit = true := Number.isDigit_of_mem_decimal (hds ▸ List.mem_cons_self)
    have hdash : c ≠ '-' := by
      rintro rfl
      cases hc
    have hminus : Lexer.between.step '-' = ([], .dash) := by decide
    have hstep : Lexer.dash.step c = ([.symbol '-'], .digits [c]) := by
      rw [Lexer.step, if_neg hdash, Lexer.after, ← Lexer.step, Lexer.start_of_isDigit hc]
      rfl
    rw [hds, List.cons_append, Lexer.run_cons_of_silent (Lexer.start_of_isDigit hc)] at hdigits
    rw [Number.signed, hds, List.cons_append, Lexer.run_cons_of_silent hminus, List.cons_append,
      Lexer.run_cons_of_step hstep, hdigits, Option.map_map]
    rfl

theorem ofHex?_hex (b : Bytes) : Bytes.ofHex? (Bytes.hex true b) = some b := by
  induction b with
  | nil => rfl
  | cons x b ih =>
    have hhigh := Bytes.hexValue?_hexDigit (x.toNat / 16) (by have := x.toNat_lt; omega)
    have hlow := Bytes.hexValue?_hexDigit (x.toNat % 16) (Nat.mod_lt _ (by decide))
    show Bytes.ofHex? (_ :: _ :: Bytes.hex true b) = _
    rw [Bytes.ofHex?, hhigh, hlow, ih]
    show some (UInt8.ofNat (x.toNat / 16 * 16 + x.toNat % 16) :: b) = _
    rw [Nat.mul_comm, Nat.div_add_mod, UInt8.ofNat_toNat]

theorem quote_not_mem_hex (b : Bytes) : '\'' ∉ Bytes.hex true b := by
  have hdigit : ∀ n < 16, '\'' ≠ Bytes.hexDigit true n := by decide
  intro h
  obtain ⟨x, -, h⟩ := List.mem_flatMap.mp h
  rcases List.mem_cons.mp h with h | h
  · exact hdigit _ (by have := x.toNat_lt; omega) h
  · exact hdigit _ (Nat.mod_lt _ (by decide)) (List.mem_singleton.mp h)

theorem reads_bytes (b : Bytes) : Reads ('X' :: '\'' :: Bytes.hex true b ++ ['\'']) [.bytes b] := by
  intro rest _
  have hletter : Lexer.between.step 'X' = ([], .letter 'X') := by decide
  have hopen : (Lexer.letter 'X').step '\'' = ([], .hex []) := by decide
  have hclose : (Lexer.hex (Bytes.hex true b)).step '\'' = ([.bytes b], .between) := by
    simp [Lexer.step, ofHex?_hex]
  rw [List.cons_append, List.cons_append, List.cons_append, List.cons_append, List.append_assoc,
    Lexer.run_cons_of_silent hletter, Lexer.run_cons_of_silent hopen, List.singleton_append,
    Lexer.run_hex (quote_not_mem_hex b), List.nil_append, Lexer.run_cons_of_step hclose]

/-! ## Literals and names -/

theorem reads_null : Reads "NULL".toList [.word "NULL"] :=
  Reads.word (by decide) (by decide)

/-- A literal makes the tokens that denote its value. -/
theorem reads_literal {v : Value} (hv : ∀ x, v ≠ .float x) :
    Reads (Dialect.mysql.literal v).toList (valueTokens v) := by
  show Reads (String.ofList (escapingLiteralChars v)).toList _
  rw [String.toList_ofList]
  cases v with
  | null => exact reads_null
  | boolean b =>
    cases b with
    | true => exact reads_decimal 1
    | false => exact reads_decimal 0
  | integer n => exact reads_signed n.toInt
  | float x => exact absurd rfl (hv x)
  | timestamp t => exact reads_quoteChars (t.not_mem_text Calendar.foreign_backslash)
  | date d => exact reads_quoteChars (d.not_mem_text Calendar.foreign_backslash)
  | time t => exact reads_quoteChars (t.not_mem_text Calendar.foreign_backslash)
  | text s =>
    have hread := reads_escaped s.toList
    rwa [String.ofList_toList] at hread
  | bytes b => exact reads_bytes b

theorem reads_name {name : String} (h : '`' ∉ name.toList) :
    Reads (Dialect.mysql.quoteIdentifier name).toList [.name name] := by
  have hread := Reads.name h
  rw [String.ofList_toList] at hread
  show Reads (String.ofList ('`' :: name.toList ++ ['`'])).toList _
  rwa [String.toList_ofList]

/-! ## Lists -/

/-- Pieces with commas between make their tokens with commas between. -/
theorem reads_commaList {α : Type} {l : List α} {piece : α → String} {tokens : α → List Token}
    (h : ∀ a ∈ l, Reads (piece a).toList (tokens a)) :
    Reads (commaList (l.map piece)).toList (separated (l.map tokens)) := by
  induction l with
  | nil => exact Reads.nil
  | cons a l ih =>
    obtain ⟨ha, hl⟩ := List.forall_mem_cons.mp h
    cases l with
    | nil => exact ha
    | cons b l =>
      have hrest := ih hl
      have hcomma := hrest.blank.symbol (c := ',') (by decide) (by decide)
      have hread := ha.append hcomma (delimited_cons (by decide))
      simpa [commaList, separated] using hread

/-! ## Statements -/

theorem insertSql_eq (table : String) (r : Record) :
    Dialect.mysql.insertSql table r =
      "INSERT INTO " ++ Dialect.mysql.quoteIdentifier table ++ " (" ++
        commaList (r.keys.map Dialect.mysql.quoteIdentifier) ++ ") VALUES (" ++
        commaList (r.pairs.map fun p => Dialect.mysql.literal p.2) ++ ")" := by
  unfold Dialect.insertSql
  split
  · next h =>
    rw [Record.keys, List.isEmpty_iff.mp h]
    simp [commaList, Dialect.mysql, String.append_assoc]
  · rfl

section Statements

variable {table column : String} {r : Record} {v : Value}

theorem reads_insertSql (ht : '`' ∉ table.toList) (hk : ∀ key ∈ r.keys, '`' ∉ key.toList)
    (hv : ∀ p ∈ r.pairs, ∀ x, p.2 ≠ .float x) :
    Reads (Dialect.mysql.insertSql table r).toList (insertTokens table r) := by
  have hinsert : Reads "INSERT".toList [.word "INSERT"] := Reads.word (by decide) (by decide)
  have hinto : Reads "INTO".toList [.word "INTO"] := Reads.word (by decide) (by decide)
  have hvalues : Reads "VALUES".toList [.word "VALUES"] := Reads.word (by decide) (by decide)
  have hkeys : Reads (commaList (r.keys.map Dialect.mysql.quoteIdentifier)).toList _ :=
    reads_commaList fun key hkey => reads_name (hk key hkey)
  have hrow : Reads (commaList (r.pairs.map fun p => Dialect.mysql.literal p.2)).toList _ :=
    reads_commaList fun p hp => reads_literal (hv p hp)
  have hread := hinsert.spaced (hinto.spaced ((reads_name ht).spaced
    (hkeys.bracketed.spaced (hvalues.spaced hrow.bracketed))))
  rw [insertSql_eq]
  simpa [insertTokens] using hread

theorem reads_assignment (hk : '`' ∉ column.toList) (hv : ∀ x, v ≠ .float x) :
    Reads (Dialect.mysql.quoteIdentifier column ++ "=" ++ Dialect.mysql.literal v).toList
      (.name column :: .symbol '=' :: valueTokens v) := by
  have hread := (reads_name hk).append
    ((reads_literal hv).symbol (c := '=') (by decide) (by decide)) (delimited_cons (by decide))
  simpa using hread

/-- An update up to its clauses. -/
theorem reads_update (ht : '`' ∉ table.toList) (hk : ∀ key ∈ r.keys, '`' ∉ key.toList)
    (hv : ∀ p ∈ r.pairs, ∀ x, p.2 ≠ .float x) :
    Reads ("UPDATE " ++ Dialect.mysql.quoteIdentifier table ++ " SET " ++
      Dialect.mysql.assignments r).toList (updateTokens table r) := by
  have hupdate : Reads "UPDATE".toList [.word "UPDATE"] := Reads.word (by decide) (by decide)
  have hset : Reads "SET".toList [.word "SET"] := Reads.word (by decide) (by decide)
  have hassignments : Reads (Dialect.mysql.assignments r).toList _ :=
    reads_commaList fun p hp => reads_assignment (hk p.1 (List.mem_map_of_mem hp)) (hv p hp)
  have hread := hupdate.spaced ((reads_name ht).spaced (hset.spaced hassignments))
  simpa [updateTokens] using hread

theorem reads_condition (hk : '`' ∉ column.toList) (hv : ∀ x, v ≠ .float x) :
    Reads (Dialect.mysql.equalityCondition column v).toList (conditionTokens column v) := by
  by_cases hnull : v = .null
  · subst hnull
    have his : Reads "IS".toList [.word "IS"] := Reads.word (by decide) (by decide)
    have hread := (reads_name hk).spaced (his.spaced reads_null)
    simpa [Dialect.equalityCondition, conditionTokens] using hread
  · have hread := (reads_name hk).spaced
      ((reads_literal hv).blank.symbol (c := '=') (by decide) (by decide))
    have hsql : Dialect.mysql.equalityCondition column v =
        Dialect.mysql.quoteIdentifier column ++ " = " ++ Dialect.mysql.literal v := by
      cases v <;> first | rfl | exact absurd rfl hnull
    have htokens : conditionTokens column v = .name column :: .symbol '=' :: valueTokens v := by
      cases v <;> first | rfl | exact absurd rfl hnull
    rw [hsql, htokens]
    simpa using hread

theorem delimited_updateClauses (c : Clauses) : Delimited (updateClauses c).toList := by
  have hwhere : Delimited (Dialect.whereClause c).toList := by
    unfold Dialect.whereClause
    split
    · simpa using delimited_cons (by decide)
    · exact delimited_nil
  have horder : Delimited (Dialect.mysql.orderClause c).toList := by
    unfold Dialect.orderClause
    split
    · simpa using delimited_cons (by decide)
    · exact delimited_nil
  have hlimit : Delimited (Dialect.limitClause c).toList := by
    unfold Dialect.limitClause
    split
    · simpa using delimited_cons (by decide)
    · exact delimited_nil
  rw [updateClauses, String.toList_append, String.toList_append]
  exact hwhere.append (horder.append hlimit)

/-- **No value escapes its place.** With names free of backticks, and values other than floats, the
    tokens of an insertion are its keywords, the table, the keys and what denotes the values; those of an
    update are the assignments of the values to the keys, followed by the tokens of its clauses; and those
    of a condition are the column and what denotes the value. -/
theorem tokenize_statements (ht : '`' ∉ table.toList) (hk : ∀ key ∈ r.keys, '`' ∉ key.toList)
    (hv : ∀ p ∈ r.pairs, ∀ x, p.2 ≠ .float x) (hcolumn : '`' ∉ column.toList)
    (hvalue : ∀ x, v ≠ .float x) :
    tokenize (Dialect.mysql.insertSql table r) = some (insertTokens table r) ∧
      (∀ c overrides, tokenize (Dialect.mysql.updateSql table r c overrides) =
        (tokenize (updateClauses (overrides.elim c c.overlay))).map (updateTokens table r ++ ·)) ∧
      tokenize (Dialect.mysql.equalityCondition column v) = some (conditionTokens column v) := by
  refine ⟨(reads_insertSql ht hk hv).tokenize_eq, ?_, (reads_condition hcolumn hvalue).tokenize_eq⟩
  intro c overrides
  have hsql : Dialect.mysql.updateSql table r c overrides =
      ("UPDATE " ++ Dialect.mysql.quoteIdentifier table ++ " SET " ++ Dialect.mysql.assignments r) ++
        updateClauses (overrides.elim c c.overlay) := by
    cases overrides <;>
      simp [Dialect.updateSql, updateClauses, Dialect.mysql, String.append_assoc]
  rw [hsql, tokenize, String.toList_append]
  exact reads_update ht hk hv _ (delimited_updateClauses _)

end Statements

/-- A row whose text tries to end its string and to begin a comment. -/
def hostileRow : Record :=
  ⟨[("name", .text "a\\' OR 1=1 -- "), ("size", .integer (-5)), ("seen", .null)], by decide⟩

theorem tokenize_statements_hostileRow :
    tokenize (Dialect.mysql.insertSql "posts" hostileRow) =
      some [.word "INSERT", .word "INTO", .name "posts", .symbol '(', .name "name", .symbol ',',
        .name "size", .symbol ',', .name "seen", .symbol ')', .word "VALUES", .symbol '(',
        .text "a\\' OR 1=1 -- ", .symbol ',', .symbol '-', .number 5, .symbol ',', .word "NULL",
        .symbol ')'] := by
  have htable : '`' ∉ "posts".toList := by decide
  have hkeys : ∀ key ∈ hostileRow.keys, '`' ∉ key.toList := by decide
  have hvalues : ∀ p ∈ hostileRow.pairs, ∀ x, p.2 ≠ .float x := by simp [hostileRow]
  have hcolumn : '`' ∉ "seen".toList := by decide
  have hnull : ∀ x, Value.null ≠ .float x := by simp
  exact (tokenize_statements htable hkeys hvalues hcolumn hnull).1

end SqlMapper.Sql
