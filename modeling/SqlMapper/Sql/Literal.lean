import SqlMapper.Text.Split
import SqlMapper.Value

/-!
# SQL literals

A value as it stands in a statement. Texts are in single quotes, with a quote inside written twice;
dates and times are texts of their own form; bytes are a hexadecimal literal.
-/

namespace SqlMapper.Sql

/-- A text in single quotes, the quotes in it doubled (`generic.quote_string`). -/
def quoteChars (s : List Char) : List Char :=
  '\'' :: Text.replaceChar '\'' ['\'', '\''] s ++ ['\'']

/-- The portable literal for a value. Floats are written in full; one that is not finite is a text. -/
def literalChars : Value → List Char
  | .null => "NULL".toList
  | .boolean true => "TRUE".toList
  | .boolean false => "FALSE".toList
  | .integer n => Number.signed n.toInt
  | .float x => if x.isFinite then x.plain else quoteChars x.plain
  | .timestamp t => quoteChars (t.text ' ')
  | .date d => quoteChars d.text
  | .time t => quoteChars t.text
  | .text s => quoteChars s.toList
  | .bytes b => 'X' :: '\'' :: Bytes.hex true b ++ ['\'']

/-- The literal for servers that read backslashes in texts as escapes and know no truth values. -/
def escapingLiteralChars : Value → List Char
  | .boolean true => ['1']
  | .boolean false => ['0']
  | .text s => quoteChars (Text.replaceChar '\\' ['\\', '\\'] s.toList)
  | v => literalChars v

/-- The portable literal for a value (`generic.literal`). -/
def literal (v : Value) : String := String.ofList (literalChars v)

/-- The literal with backslashes doubled and truth values as numbers (`MySqlDialect.literal`). -/
def escapingLiteral (v : Value) : String := String.ofList (escapingLiteralChars v)

end SqlMapper.Sql
