import SqlMapper.Number.Binary64
import SqlMapper.Text.Bytes

/-!
# Reading JSON into typed data

A document is read directly into the data that is expected, without a tree in between. So the first
fault in reading order decides the error: a value of the wrong kind is found where it stands, before a
fault of syntax further on.

* `Reader.string`, `Reader.bool`, `Reader.natBelow`, `Reader.optional`: values.
* `Reader.list`, `Reader.object`, `Reader.tuple`: compounds. Unknown members are skipped, and only their
  syntax is looked at.
* `Reader.whole`: a document with nothing after it but blanks.
-/

namespace SqlMapper.Json

/-- What kind of fault a text has: it is no JSON, it is not the data expected, or it ends early. -/
inductive ReadError where
  | syntaxFault
  | wrongData
  | endOfText
deriving DecidableEq

/-- Reads from the front of a text, and leaves what follows. -/
abbrev Reader := StateT (List Char) (Except ReadError)

namespace Reader

/-! ## Characters -/

/-- A blank between the parts of a document. -/
def isSpace (c : Char) : Bool := c = ' ' || c = '\n' || c = '\t' || c = '\r'

/-- The next character after blanks, which is left in place. -/
def peek : Reader (Option Char) := fun s =>
  let rest := s.dropWhile isSpace
  .ok (rest.head?, rest)

/-- The next character after blanks, which is left in place; the text may not end here. -/
def peekSome : Reader Char := do
  match ← peek with
  | some c => return c
  | none => throw .endOfText

/-- Drops the character that was looked at. -/
def skip : Reader Unit := modify (·.drop 1)

/-- The characters of a word that has been recognised by its first one. -/
def word : List Char → Reader Unit
  | [] => return
  | c :: rest => fun s =>
    match s with
    | [] => .error .endOfText
    | d :: after => if d = c then word rest after else .error .syntaxFault

/-! ## Strings -/

/-- The number of four hexadecimal digits. A text of fewer than four bytes ends early, whatever it
    holds. -/
def hex4 : Reader Nat := fun s =>
  match s with
  | a :: b :: c :: d :: rest =>
    match Bytes.hexValue? a, Bytes.hexValue? b, Bytes.hexValue? c, Bytes.hexValue? d with
    | some a, some b, some c, some d => .ok (((a * 16 + b) * 16 + c) * 16 + d, rest)
    | _, _, _, _ => .error .syntaxFault
  | short =>
    if short.foldl (fun n c => n + c.utf8Size) 0 < 4 then .error .endOfText else .error .syntaxFault

/-- The character of an escape with a letter. -/
def shortEscape? (c : Char) : Option Char :=
  if c = '"' ∨ c = '\\' ∨ c = '/' then some c
  else if c = 'b' then some (Char.ofNat 8)
  else if c = 'f' then some (Char.ofNat 12)
  else if c = 'n' then some '\n'
  else if c = 'r' then some '\r'
  else if c = 't' then some '\t'
  else none

/-- A character that has to follow at once. -/
def exactly (c : Char) : Reader Unit := fun
  | [] => .error .endOfText
  | d :: rest => if d = c then .ok ((), rest) else .error .syntaxFault

/-- The character of an escape by number. One beyond the first plane is written as two numbers, and
    neither of the two may stand alone. -/
def numberEscape : Reader Char := do
  let n ← hex4
  if 0xDC00 ≤ n ∧ n ≤ 0xDFFF then throw .syntaxFault
  else if 0xD800 ≤ n ∧ n ≤ 0xDBFF then
    exactly '\\'
    exactly 'u'
    let m ← hex4
    if 0xDC00 ≤ m ∧ m ≤ 0xDFFF then
      return Char.ofNat ((n - 0xD800) * 0x400 + (m - 0xDC00) + 0x10000)
    else throw .syntaxFault
  else return Char.ofNat n

/-- The next character of a string, or none at its end. -/
def stringChar : Reader (Option Char) := fun
  | [] => .error .endOfText
  | '"' :: rest => .ok (none, rest)
  | ['\\'] => .error .endOfText
  | '\\' :: 'u' :: rest => (some <$> numberEscape) rest
  | '\\' :: c :: rest =>
    match shortEscape? c with
    | some d => .ok (some d, rest)
    | none => .error .syntaxFault
  | c :: rest => if c.toNat < 32 then .error .syntaxFault else .ok (some c, rest)

/-- The rest of a string after its opening quote. Every character of it takes at least one character of
    text, so the length of the text bounds the number of steps. -/
def stringBody : Nat → Reader (List Char)
  | 0 => throw .endOfText
  | fuel + 1 => do
    match ← stringChar with
    | some c => return c :: (← stringBody fuel)
    | none => return []

/-- A string after its opening quote. -/
def openString : Reader String := do
  let s ← get
  return String.ofList (← stringBody (s.length + 1))

/-- Skips a string after its opening quote; a number in an escape may be any. -/
def skipString : Nat → Reader Unit
  | 0 => throw .endOfText
  | fuel + 1 => fun
    | [] => .error .endOfText
    | '"' :: rest => .ok ((), rest)
    | ['\\'] => .error .endOfText
    | '\\' :: 'u' :: rest => (do let _ ← hex4; skipString fuel) rest
    | '\\' :: c :: rest =>
      if (shortEscape? c).isSome then skipString fuel rest else .error .syntaxFault
    | c :: rest => if c.toNat < 32 then .error .syntaxFault else skipString fuel rest

/-! ## Numbers -/

/-- Whether a text starts with a digit. -/
def startsWithDigit (s : List Char) : Bool := (s.head?.map Char.isDigit).getD false

/-- Digits without a leading zero. -/
def wholeDigits : Reader (List Char) := fun s =>
  let ds := s.takeWhile Char.isDigit
  let rest := s.dropWhile Char.isDigit
  match ds with
  | [] => if s.isEmpty then .error .endOfText else .error .syntaxFault
  | '0' :: _ :: _ => .error .syntaxFault
  | _ => .ok (ds, rest)

/-- Digits that have to follow. -/
def someDigits : Reader (List Char) := fun s =>
  let ds := s.takeWhile Char.isDigit
  if ds.isEmpty then (if s.isEmpty then .error .endOfText else .error .syntaxFault)
  else .ok (ds, s.dropWhile Char.isDigit)

/-- An optional sign of an exponent. -/
def exponentSign : Reader Bool := fun
  | '-' :: rest => .ok (true, rest)
  | '+' :: rest => .ok (false, rest)
  | s => .ok (false, s)

/-- The exponent of a number, if it has one. -/
def exponent? : Reader (Option Int) := do
  match (← get).head? with
  | some c =>
    if c = 'e' ∨ c = 'E' then
      skip
      let negative ← exponentSign
      let n := Number.ofDigits (← someDigits)
      return some (if negative then -(n : Int) else n)
    else return none
  | none => return none

/-- A number: a natural one, or any other. A number that is too large for floating point is a fault. -/
def number (negative : Bool) : Reader (Option Nat) := do
  let ds ← wholeDigits
  let fraction ← match (← get).head? with
    | some '.' => do
      skip
      some <$> someDigits
    | _ => pure none
  let exponent ← exponent?
  if fraction.isNone ∧ exponent.isNone then
    if negative then return none
    else if Number.ofDigits ds < UInt64.size then return some (Number.ofDigits ds)
  let digits := Number.ofDigits (ds ++ fraction.getD [])
  let place := exponent.getD 0 - (fraction.getD []).length
  if (Binary64.ofDecimal negative digits place).isInfinite then throw .syntaxFault
  return none

/-- Skips digits that have to follow; at the end of the text this is a fault of syntax. -/
def skipDigits : Reader Unit := fun s =>
  if startsWithDigit s then .ok ((), s.dropWhile Char.isDigit) else .error .syntaxFault

/-- Skips a number after its sign. -/
def skipNumber : Reader Unit := do
  let s ← get
  if startsWithDigit s then
    let ds := s.takeWhile Char.isDigit
    if ds.head? = some '0' ∧ 1 < ds.length then throw .syntaxFault
    set (s.dropWhile Char.isDigit)
  else throw .syntaxFault
  if (← get).head? = some '.' then
    skip
    skipDigits
  if (← get).head? = some 'e' ∨ (← get).head? = some 'E' then
    skip
    let _ ← exponentSign
    skipDigits

/-! ## Skipping a value -/

/-- Skips any value; the text's length bounds the nesting and the number of elements. -/
def skipValue : Nat → Reader Unit
  | 0 => throw .endOfText
  | fuel + 1 => do
    let c ← peekSome
    if c = 'n' then do skip; word ['u', 'l', 'l']
    else if c = 't' then do skip; word ['r', 'u', 'e']
    else if c = 'f' then do skip; word ['a', 'l', 's', 'e']
    else if c = '-' then do skip; skipNumber
    else if c.isDigit then skipNumber
    else if c = '"' then do
      skip
      let s ← get
      skipString (s.length + 1)
    else if c = '[' then do
      skip
      if (← peekSome) = ']' then skip else skipItems fuel
    else if c = '{' then do
      skip
      if (← peekSome) = '}' then skip else skipMembers fuel
    else throw .syntaxFault
where
  /-- Skips the elements of an array, and its end. -/
  skipItems : Nat → Reader Unit
    | 0 => throw .endOfText
    | fuel + 1 => do
      skipValue fuel
      let c ← peekSome
      if c = ',' then do skip; skipItems fuel
      else if c = ']' then skip
      else throw .syntaxFault
  /-- Skips the members of an object, and its end. -/
  skipMembers : Nat → Reader Unit
    | 0 => throw .endOfText
    | fuel + 1 => do
      if (← peekSome) = '"' then do
        skip
        let s ← get
        skipString (s.length + 1)
      else throw .syntaxFault
      if (← peekSome) = ':' then skip else throw .syntaxFault
      skipValue fuel
      let c ← peekSome
      if c = ',' then do skip; skipMembers fuel
      else if c = '}' then skip
      else throw .syntaxFault

/-- Skips any value. -/
def skipAny : Reader Unit := do
  let s ← get
  skipValue (2 * s.length + 2)

/-! ## Values -/

/-- The error for a value that is not of the kind expected: its own fault if it is a malformed scalar,
    else that the data is wrong. -/
def wrongKind {α : Type} : Reader α := do
  let c ← peekSome
  if c = 'n' then do skip; word ['u', 'l', 'l']; throw .wrongData
  else if c = 't' then do skip; word ['r', 'u', 'e']; throw .wrongData
  else if c = 'f' then do skip; word ['a', 'l', 's', 'e']; throw .wrongData
  else if c = '-' then do
    skip
    let _ ← number true
    throw .wrongData
  else if c.isDigit then do
    let _ ← number false
    throw .wrongData
  else if c = '"' then do
    skip
    let _ ← openString
    throw .wrongData
  else if c = '[' ∨ c = '{' then throw .wrongData
  else throw .syntaxFault

/-- A string. -/
def string : Reader String := do
  if (← peekSome) = '"' then do skip; openString else wrongKind

/-- A truth value. -/
def bool : Reader Bool := do
  let c ← peekSome
  if c = 't' then do skip; word ['r', 'u', 'e']; return true
  else if c = 'f' then do skip; word ['a', 'l', 's', 'e']; return false
  else wrongKind

/-- A natural number below `bound`. -/
def natBelow (bound : Nat) : Reader Nat := do
  let c ← peekSome
  if c = '-' then do
    skip
    let _ ← number true
    throw .wrongData
  else if c.isDigit then
    match ← number false with
    | some n => if n < bound then return n else throw .wrongData
    | none => throw .wrongData
  else wrongKind

/-- A value or null. -/
def optional {α : Type} (r : Reader α) : Reader (Option α) := do
  if (← peek) = some 'n' then do skip; word ['u', 'l', 'l']; return none
  else some <$> r

/-! ## Compounds -/

/-- Whether an array has another element; `first` until one has been read. -/
def hasItem (first : Bool) : Reader Bool := do
  let c ← peekSome
  if c = ']' then return false
  else if first then return true
  else if c = ',' then do
    skip
    if (← peekSome) = ']' then throw .syntaxFault else return true
  else throw .syntaxFault

/-- The end of an array. -/
def endArray : Reader Unit := do
  let c ← peekSome
  if c = ']' then skip else throw .syntaxFault

/-- The elements of an array. -/
def items {α : Type} (r : Reader α) : Nat → Bool → Reader (List α)
  | 0, _ => throw .endOfText
  | fuel + 1, first => do
    if ← hasItem first then
      let x ← r
      return x :: (← items r fuel false)
    else return []

/-- An array. -/
def list {α : Type} (r : Reader α) : Reader (List α) := do
  if (← peekSome) = '[' then do
    skip
    let s ← get
    let xs ← items r (s.length + 1) true
    endArray
    return xs
  else wrongKind

/-- The next element of an array that has to have one. -/
def item {α : Type} (first : Bool) (r : Reader α) : Reader α := do
  if ← hasItem first then r else throw .wrongData

/-- The name of the next member, or none at the end of the object. -/
def memberName (first : Bool) : Reader (Option String) := do
  let c ← peekSome
  if c = '}' then return none
  else do
    if !first then
      if c = ',' then skip else throw .syntaxFault
    if (← peekSome) = '"' then do
      skip
      some <$> openString
    else throw .syntaxFault

/-- What a member means for the data read so far. -/
inductive Member (σ : Type) where
  | known (r : Reader σ)
  | repeated
  | unknown

/-- A member that may occur once. -/
def Member.once {σ β : Type} (seen : Option β) (r : Reader β) (put : β → σ) : Member σ :=
  if seen.isSome then .repeated else .known (put <$> r)

/-- The colon between a name and its value. -/
def colon : Reader Unit := do
  if (← peekSome) = ':' then skip else throw .syntaxFault

/-- The members of an object up to its end. A repeated member is refused at its name, and one that is
    not known is skipped. -/
def members {σ : Type} (member : σ → String → Member σ) : Nat → Bool → σ → Reader σ
  | 0, _, _ => throw .endOfText
  | fuel + 1, first, acc => do
    match ← memberName first with
    | none => return acc
    | some name =>
      match member acc name with
      | .known r => do
        colon
        members member fuel false (← r)
      | .repeated => throw .wrongData
      | .unknown => do
        colon
        skipAny
        members member fuel false acc

/-- A record of named parts: an object whose members come in any order, or an array of all parts in
    their order. -/
def object {σ α : Type} (empty : σ) (member : σ → String → Member σ) (finish : σ → Option α)
    (tuple : Reader α) : Reader α := do
  let c ← peekSome
  if c = '{' then do
    skip
    let s ← get
    let acc ← members member (s.length + 1) true empty
    match finish acc with
    | some a => do
      skip
      return a
    | none => throw .wrongData
  else if c = '[' then do
    skip
    let a ← tuple
    endArray
    return a
  else wrongKind

/-- Runs a reader over a whole document. -/
def whole {α : Type} (r : Reader α) (s : List Char) : Except ReadError α :=
  match r s with
  | .ok (a, rest) => if rest.all isSpace then .ok a else .error .syntaxFault
  | .error e => .error e

end Reader

end SqlMapper.Json
