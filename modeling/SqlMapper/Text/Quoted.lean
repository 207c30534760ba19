import SqlMapper.Text.HiddenTable
import SqlMapper.Text.Bytes

/-!
# Quoted text for messages

A text as a message shows it: in double quotes, with the quote, the backslash and the common controls
as short escapes, and every other character that does not stand alone on paper by its number.
-/

namespace SqlMapper.Text

/-- Whether a message shows the character by its number. -/
def isHidden (c : Char) : Bool :=
  if c.toNat < 128 then c.toNat < 32 || c.toNat == 127 else inRuns hiddenRuns c.toNat

/-- A number in lower case hexadecimal digits. -/
def hexNumber (n : Nat) : List Char := Nat.toDigits 16 n

/-- One character of a quoted text. -/
def quotedChar (c : Char) : List Char :=
  if c = '"' then ['\\', '"']
  else if c = '\\' then ['\\', '\\']
  else if c = '\n' then ['\\', 'n']
  else if c = '\r' then ['\\', 'r']
  else if c = '\t' then ['\\', 't']
  else if c.toNat = 0 then ['\\', '0']
  else if isHidden c then ['\\', 'u', '{'] ++ hexNumber c.toNat ++ ['}']
  else [c]

/-- A text in quotes. -/
def quoted (s : String) : String :=
  String.ofList ('"' :: s.toList.flatMap quotedChar ++ ['"'])

end SqlMapper.Text
