import SqlMapper.Number.Decimal
import SqlMapper.Text.Bytes

/-!
# Reading SQL

How a MySQL server in its default mode cuts a statement into tokens, one character after the other:
names in backticks, strings in single or double quotes, hexadecimal strings, numbers, words and symbols,
with blanks and comments between. In a string a quote is written twice, and a backslash escapes the next
character. Of the strings with a letter before them only the hexadecimal ones are read as one token.

* `tokenize`: the tokens of a text.
* `Reads`: a piece of a statement makes the same tokens wherever it stands.
* `Reads.append`: pieces one after the other.
-/

namespace SqlMapper.Sql

/-! ## Tokens -/

inductive Token where
  /-- A keyword, or a name that is not in backticks. -/
  | word (s : String)
  | name (s : String)
  | text (s : String)
  | bytes (b : Bytes)
  | number (n : Nat)
  | symbol (c : Char)
deriving DecidableEq

/-! ## Characters -/

def isSpace (c : Char) : Bool := c == ' ' || (9 ≤ c.toNat && c.toNat ≤ 13)

/-- Whether a character may stand in a word. -/
def isWordChar (c : Char) : Bool := c.isAlphanum || c == '_' || c == '$' || 0x80 ≤ c.toNat

/-- What a backslash makes of the next character. A pattern keeps the backslash before its wildcards. -/
def unescape : Char → List Char
  | '0' => [Char.ofNat 0]
  | 'b' => [Char.ofNat 8]
  | 'n' => ['\n']
  | 'r' => ['\r']
  | 't' => ['\t']
  | 'Z' => [Char.ofNat 26]
  | '%' => ['\\', '%']
  | '_' => ['\\', '_']
  | c => [c]

/-! ## The lexer -/

/-- Where the lexer stands, with what it has read of an unfinished token. -/
inductive Lexer where
  | between
  | word (read : List Char)
  | digits (read : List Char)
  /-- Inside backticks. -/
  | name (read : List Char)
  /-- After a backtick that ends a name, unless one more follows. -/
  | named (read : List Char)
  /-- Inside a string with the given quote. -/
  | text (quote : Char) (read : List Char)
  /-- After a backslash in a string. -/
  | escape (quote : Char) (read : List Char)
  /-- After a quote that ends a string, unless one more follows. -/
  | quoted (quote : Char) (read : List Char)
  /-- After the letter that begins a hexadecimal string, or a word. -/
  | letter (x : Char)
  /-- Inside a hexadecimal string. -/
  | hex (read : List Char)
  | dash
  | dashes
  | slash
  /-- In a comment that ends with the line. -/
  | line
  /-- In a comment between slashes and stars. -/
  | block
  /-- After a star in such a comment. -/
  | star
  /-- After a hexadecimal string that is none. -/
  | broken
deriving DecidableEq

namespace Lexer

/-- A character that begins something new, or stands alone. -/
def start (c : Char) : List Token × Lexer :=
  if isSpace c then ([], between)
  else if c = '`' then ([], name [])
  else if c = '\'' ∨ c = '"' then ([], text c [])
  else if c = '-' then ([], dash)
  else if c = '/' then ([], slash)
  else if c = '#' then ([], line)
  else if c = 'X' ∨ c = 'x' then ([], letter c)
  else if c.isDigit then ([], digits [c])
  else if isWordChar c then ([], word [c])
  else ([.symbol c], between)

/-- A character after some finished tokens. -/
def after (ts : List Token) (c : Char) : List Token × Lexer := (ts ++ (start c).1, (start c).2)

/-- One character: the tokens that it finishes. -/
def step : Lexer → Char → List Token × Lexer
  | between, c => start c
  | word read, c =>
    if isWordChar c then ([], word (read ++ [c])) else after [.word (String.ofList read)] c
  | digits read, c =>
    if c.isDigit then ([], digits (read ++ [c])) else after [.number (Number.ofDigits read)] c
  | name read, c => ([], if c = '`' then named read else name (read ++ [c]))
  | named read, c =>
    if c = '`' then ([], name (read ++ [c])) else after [.name (String.ofList read)] c
  | text quote read, c =>
    ([], if c = quote then quoted quote read
      else if c = '\\' then escape quote read
      else text quote (read ++ [c]))
  | escape quote read, c => ([], text quote (read ++ unescape c))
  | quoted quote read, c =>
    if c = quote then ([], text quote (read ++ [c])) else after [.text (String.ofList read)] c
  | letter x, c =>
    if c = '\'' then ([], hex [])
    else if isWordChar c then ([], word [x, c])
    else after [.word (String.ofList [x])] c
  | hex read, c =>
    if c = '\'' then
      match Bytes.ofHex? read with
      | some b => ([.bytes b], between)
      | none => ([], broken)
    else ([], hex (read ++ [c]))
  | dash, c => if c = '-' then ([], dashes) else after [.symbol '-'] c
  | dashes, c =>
    if isSpace c then ([], line)
    else if c = '-' then ([.symbol '-'], dashes)
    else after [.symbol '-', .symbol '-'] c
  | slash, c => if c = '*' then ([], block) else after [.symbol '/'] c
  | line, c => ([], if c = '\n' then between else line)
  | block, c => ([], if c = '*' then star else block)
  | star, c => ([], if c = '/' then between else if c = '*' then star else block)
  | broken, _ => ([], broken)

/-- The tokens that the end of the text finishes; none if it leaves something open. -/
def finish? : Lexer → Option (List Token)
  | between | line => some []
  | word read => some [.word (String.ofList read)]
  | digits read => some [.number (Number.ofDigits read)]
  | named read => some [.name (String.ofList read)]
  | quoted _ read => some [.text (String.ofList read)]
  | letter x => some [.word (String.ofList [x])]
  | dash => some [.symbol '-']
  | dashes => some [.symbol '-', .symbol '-']
  | slash => some [.symbol '/']
  | name _ | text _ _ | escape _ _ | hex _ | block | star | broken => none

/-- The tokens of the rest of a text. -/
def run : Lexer → List Char → Option (List Token)
  | s, [] => s.finish?
  | s, c :: rest => ((s.step c).2.run rest).map ((s.step c).1 ++ ·)

variable {s s' : Lexer} {ts : List Token} {c : Char} {rest : List Char}

theorem run_cons_of_silent (h : s.step c = ([], s')) : s.run (c :: rest) = s'.run rest := by
  rw [run, h]
  exact Option.map_id'

theorem run_cons_of_step (h : s.step c = (ts, s')) :
    s.run (c :: rest) = (s'.run rest).map (ts ++ ·) := by
  rw [run, h]

end Lexer

/-- The tokens of a text, unless it breaks off inside of one. -/
def tokenize (s : String) : Option (List Token) := Lexer.between.run s.toList

/-! ## Where tokens end -/

/-- Characters that end every token but a string. -/
def delimiters : List Char := [' ', ',', '(', ')', '=']

/-- Nothing follows, or a delimiter. -/
def Delimited (rest : List Char) : Prop := ∀ c ∈ rest.head?, c ∈ delimiters

theorem delimited_nil : Delimited [] := by
  intro c h
  cases h

theorem delimited_cons {c : Char} {rest : List Char} (h : c ∈ delimiters) : Delimited (c :: rest) := by
  rintro _ ⟨⟩
  exact h

theorem Delimited.append {a b : List Char} (ha : Delimited a) (hb : Delimited b) :
    Delimited (a ++ b) := by
  cases a with
  | nil => exact hb
  | cons c a => exact delimited_cons (ha c rfl)

namespace Lexer

variable {s : Lexer} {ts : List Token} {rest : List Char}

/-- The given tokens are finished by the end of the text as well as by a delimiter. -/
structure Complete (s : Lexer) (ts : List Token) : Prop where
  finish : s.finish? = some ts
  step : ∀ c ∈ delimiters, s.step c = after ts c

theorem Complete.run (h : s.Complete ts) (hrest : Delimited rest) :
    s.run rest = (between.run rest).map (ts ++ ·) := by
  cases rest with
  | nil =>
    rw [Lexer.run, h.finish]
    simp [Lexer.run, finish?]
  | cons c rest =>
    have hstep := h.step c (hrest c rfl)
    simp only [Lexer.run, hstep, after, Option.map_map]
    congr 1
    funext us
    exact List.append_assoc _ _ _

/-- A delimiter continues no token that the lexer may be in. -/
theorem not_of_mem_delimiters {p : Char → Bool} (h : delimiters.all fun c => !p c) {c : Char}
    (hc : c ∈ delimiters) : ¬p c = true := by
  have hp := List.all_eq_true.mp h c hc
  rw [Bool.not_eq_true'] at hp
  rw [hp]
  exact Bool.false_ne_true

theorem complete_word (read : List Char) : (word read).Complete [.word (String.ofList read)] where
  finish := rfl
  step _ hc := if_neg (not_of_mem_delimiters (by decide) hc)

theorem complete_digits (read : List Char) :
    (digits read).Complete [.number (Number.ofDigits read)] where
  finish := rfl
  step _ hc := if_neg (not_of_mem_delimiters (by decide) hc)

theorem complete_named (read : List Char) : (named read).Complete [.name (String.ofList read)] where
  finish := rfl
  step _ hc := if_neg (by rintro rfl; exact absurd hc (by decide))

theorem complete_quoted (read : List Char) :
    (quoted '\'' read).Complete [.text (String.ofList read)] where
  finish := rfl
  step _ hc := if_neg (by rintro rfl; exact absurd hc (by decide))

theorem start_of_isDigit {c : Char} (hc : c.isDigit = true) :
    between.step c = ([], digits [c]) := by
  have hne : ∀ x : Char, x.isDigit = false → c ≠ x := by
    rintro x hx rfl
    rw [hx] at hc
    cases hc
  have hspace : isSpace c = false := by
    have hlow : 48 ≤ c.toNat := by
      simp only [Char.isDigit, Bool.and_eq_true, decide_eq_true_eq] at hc
      exact UInt32.le_iff_toNat_le.mp hc.1
    simp only [isSpace, beq_eq_false_iff_ne.mpr (hne ' ' rfl), Bool.false_or, Bool.and_eq_false_iff,
      decide_eq_false_iff_not]
    omega
  simp [step, start, hspace, hc, hne '`' rfl, hne '\'' rfl, hne '"' rfl, hne '-' rfl, hne '/' rfl,
    hne '#' rfl, hne 'X' rfl, hne 'x' rfl]

/-! ## Inside tokens -/

/-- Characters that are only added to what has been read. -/
theorem run_append {state : List Char → Lexer} {w read : List Char}
    (h : ∀ c ∈ w, ∀ read, (state read).step c = ([], state (read ++ [c]))) :
    (state read).run (w ++ rest) = (state (read ++ w)).run rest := by
  induction w generalizing read with
  | nil => rw [List.append_nil, List.nil_append]
  | cons c w ih =>
    obtain ⟨hc, hw⟩ := List.forall_mem_cons.mp h
    rw [List.cons_append, run_cons_of_silent (hc read), ih hw, List.append_assoc]
    rfl

theorem run_word {w read : List Char} (hw : ∀ c ∈ w, isWordChar c) :
    (word read).run (w ++ rest) = (word (read ++ w)).run rest :=
  run_append fun c hc _ => if_pos (hw c hc)

theorem run_digits {ds read : List Char} (hds : ∀ c ∈ ds, c.isDigit) :
    (digits read).run (ds ++ rest) = (digits (read ++ ds)).run rest :=
  run_append fun c hc _ => if_pos (hds c hc)

theorem run_name {n read : List Char} (hn : '`' ∉ n) :
    (name read).run (n ++ '`' :: rest) = (named (read ++ n)).run rest := by
  have hstep : ∀ c ∈ n, ∀ read, (name read).step c = ([], name (read ++ [c])) := by
    intro c hc read
    have hne : c ≠ '`' := by
      rintro rfl
      exact hn hc
    simp [step, hne]
  rw [run_append hstep]
  exact run_cons_of_silent rfl

theorem run_hex {h read : List Char} (hh : '\'' ∉ h) :
    (hex read).run (h ++ rest) = (hex (read ++ h)).run rest := by
  refine run_append fun c hc read => if_neg ?_
  rintro rfl
  exact hh hc

end Lexer

/-! ## Pieces of a statement -/

/-- A piece of a statement makes the given tokens, if a delimiter or nothing follows it. -/
def Reads (cs : List Char) (ts : List Token) : Prop :=
  ∀ rest, Delimited rest → Lexer.between.run (cs ++ rest) = (Lexer.between.run rest).map (ts ++ ·)

namespace Reads

variable {cs cs' : List Char} {ts ts' : List Token}

/-- A whole text. -/
theorem tokenize_eq {s : String} (h : Reads s.toList ts) : tokenize s = some ts := by
  have whole := h [] delimited_nil
  rw [List.append_nil] at whole
  rw [tokenize, whole]
  simp [Lexer.run, Lexer.finish?]

/-- A text that begins with a piece. -/
theorem tokenize_append {s s' : String} (h : Reads s.toList ts) (hd : Delimited s'.toList) :
    tokenize (s ++ s') = (tokenize s').map (ts ++ ·) := by
  rw [tokenize, String.toList_append, h _ hd]
  rfl

theorem append (h : Reads cs ts) (h' : Reads cs' ts') (hd : Delimited cs') :
    Reads (cs ++ cs') (ts ++ ts') := by
  intro rest hrest
  rw [List.append_assoc, h _ (hd.append hrest), h' _ hrest, Option.map_map]
  congr 1
  funext us
  exact (List.append_assoc _ _ _).symm

theorem blank (h : Reads cs ts) : Reads (' ' :: cs) ts := by
  intro rest hrest
  have hstep : Lexer.between.step ' ' = ([], .between) := by decide
  rw [List.cons_append, Lexer.run_cons_of_silent hstep, h rest hrest]

/-- A delimiter that is a token. -/
theorem symbol {c : Char} (hc : c ∈ delimiters) (hne : c ≠ ' ') (h : Reads cs ts) :
    Reads (c :: cs) (.symbol c :: ts) := by
  have hall : delimiters.all fun c => c == ' ' || Lexer.between.step c == ([.symbol c], .between) := by
    decide
  have hstep : Lexer.between.step c = ([.symbol c], .between) := by
    simpa [hne] using List.all_eq_true.mp hall c hc
  intro rest hrest
  rw [List.cons_append, Lexer.run_cons_of_step hstep, h rest hrest, Option.map_map]
  rfl

theorem nil : Reads [] [] := by
  intro rest _
  exact Option.map_id'.symm

/-- Two pieces with a blank between. -/
theorem spaced (h : Reads cs ts) (h' : Reads cs' ts') : Reads (cs ++ ' ' :: cs') (ts ++ ts') :=
  h.append h'.blank (delimited_cons (by decide))

/-- A piece in brackets. -/
theorem bracketed (h : Reads cs ts) :
    Reads ('(' :: cs ++ [')']) (.symbol '(' :: ts ++ [.symbol ')']) :=
  (h.append (nil.symbol (by decide) (by decide)) (delimited_cons (by decide))).symbol
    (by decide) (by decide)

/-- A word whose first letter begins nothing else. -/
theorem word {c : Char} {w : List Char} (hc : Lexer.between.step c = ([], .word [c]))
    (hw : w.all isWordChar) : Reads (c :: w) [.word (String.ofList (c :: w))] := by
  intro rest hrest
  rw [List.cons_append, Lexer.run_cons_of_silent hc, Lexer.run_word (List.all_eq_true.mp hw),
    (Lexer.complete_word _).run hrest]
  rfl

theorem digits {ds : List Char} (hne : ds ≠ []) (hds : ∀ c ∈ ds, c.isDigit) :
    Reads ds [.number (Number.ofDigits ds)] := by
  obtain ⟨c, ds, rfl⟩ := List.exists_cons_of_ne_nil hne
  obtain ⟨hc, hds⟩ := List.forall_mem_cons.mp hds
  intro rest hrest
  rw [List.cons_append, Lexer.run_cons_of_silent (Lexer.start_of_isDigit hc), Lexer.run_digits hds,
    (Lexer.complete_digits _).run hrest]
  rfl

/-- A name in backticks. -/
theorem name {n : List Char} (hn : '`' ∉ n) :
    Reads ('`' :: n ++ ['`']) [.name (String.ofList n)] := by
  intro rest hrest
  have hstep : Lexer.between.step '`' = ([], .name []) := by decide
  rw [List.cons_append, List.cons_append, List.append_assoc, Lexer.run_cons_of_silent hstep,
    List.singleton_append, Lexer.run_name hn, (Lexer.complete_named _).run hrest, List.nil_append]

end Reads

end SqlMapper.Sql
