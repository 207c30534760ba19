import SqlMapper.Text.Bytes

/-!
# JSON documents and their text

A document is a tree; members keep their order. It is written compactly, or over several lines with two
blanks a level.

* `Json.compact`: no blanks at all.
* `Json.pretty`: one member or element a line.
-/

namespace SqlMapper

/-- A JSON document. A number is kept as its text. -/
inductive Json where
  | null
  | bool (b : Bool)
  | number (text : List Char)
  | string (s : String)
  | array (items : List Json)
  | object (members : List (String × Json))

namespace Json

/-! ## Strings -/

/-- One character of a JSON string: quotes, backslashes and controls are escaped. -/
def escaped (c : Char) : List Char :=
  if c = '"' then ['\\', '"']
  else if c = '\\' then ['\\', '\\']
  else if c = '\n' then ['\\', 'n']
  else if c = '\r' then ['\\', 'r']
  else if c = '\t' then ['\\', 't']
  else if c.toNat = 8 then ['\\', 'b']
  else if c.toNat = 12 then ['\\', 'f']
  else if c.toNat < 32 then
    ['\\', 'u', '0', '0', Bytes.hexDigit false (c.toNat / 16), Bytes.hexDigit false (c.toNat % 16)]
  else [c]

/-- A text as a JSON string. -/
def quote (s : String) : List Char := '"' :: s.toList.flatMap escaped ++ ['"']

/-! ## Compact text -/

mutual

/-- The text of a document without blanks. -/
def compact : Json → List Char
  | .null => ['n', 'u', 'l', 'l']
  | .bool true => ['t', 'r', 'u', 'e']
  | .bool false => ['f', 'a', 'l', 's', 'e']
  | .number text => text
  | .string s => quote s
  | .array items => '[' :: compactItems items ++ [']']
  | .object members => '{' :: compactMembers members ++ ['}']

/-- Elements with commas between. -/
def compactItems : List Json → List Char
  | [] => []
  | [x] => compact x
  | x :: y :: rest => compact x ++ ',' :: compactItems (y :: rest)

/-- Members with commas between. -/
def compactMembers : List (String × Json) → List Char
  | [] => []
  | [(k, v)] => quote k ++ ':' :: compact v
  | (k, v) :: m :: rest => quote k ++ ':' :: compact v ++ ',' :: compactMembers (m :: rest)

end

/-- The text of a document without blanks, as a string. -/
def text (j : Json) : String := String.ofList j.compact

/-! ## Text over several lines -/

/-- The start of a line `depth` levels deep. -/
def newLine (depth : Nat) : List Char := '\n' :: List.replicate (2 * depth) ' '

mutual

/-- The text of a document that starts on a line `depth` levels deep. -/
def prettyAt (depth : Nat) : Json → List Char
  | .array [] => ['[', ']']
  | .array (x :: rest) => '[' :: prettyItems depth (x :: rest) ++ newLine depth ++ [']']
  | .object [] => ['{', '}']
  | .object (m :: rest) => '{' :: prettyMembers depth (m :: rest) ++ newLine depth ++ ['}']
  | .null => ['n', 'u', 'l', 'l']
  | .bool true => ['t', 'r', 'u', 'e']
  | .bool false => ['f', 'a', 'l', 's', 'e']
  | .number text => text
  | .string s => quote s

/-- Elements, each on its line, with commas after all but the last. -/
def prettyItems (depth : Nat) : List Json → List Char
  | [] => []
  | [x] => newLine (depth + 1) ++ prettyAt (depth + 1) x
  | x :: y :: rest =>
    newLine (depth + 1) ++ prettyAt (depth + 1) x ++ ',' :: prettyItems depth (y :: rest)

/-- Members, each on its line, with commas after all but the last. -/
def prettyMembers (depth : Nat) : List (String × Json) → List Char
  | [] => []
  | [(k, v)] => newLine (depth + 1) ++ quote k ++ ':' :: ' ' :: prettyAt (depth + 1) v
  | (k, v) :: m :: rest =>
    newLine (depth + 1) ++ quote k ++ ':' :: ' ' :: prettyAt (depth + 1) v ++
      ',' :: prettyMembers depth (m :: rest)

end

/-- The text of a document over several lines. -/
def pretty (j : Json) : String := String.ofList (prettyAt 0 j)

/-! ## Making documents -/

/-- A whole number. -/
def int (n : Int) : Json := .number (Int.repr n).toList

/-- A string, or null. -/
def optString : Option String → Json
  | some s => .string s
  | none => .null

/-- An array of strings. -/
def strings (l : List String) : Json := .array (l.map .string)

end Json

end SqlMapper
