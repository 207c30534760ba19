import SqlMapper.Calendar.TimeOfDay
import SqlMapper.Json.Basic
import SqlMapper.Number.FloatText
import SqlMapper.Text.Base64

/-!
# Values

The scalar values that columns hold and statements are made with.

* `Value.ofRaw`: a column's bytes as they are, as text if they are text.
* `Value.ofUnsigned`: an unsigned number, as text if it does not fit a signed one.
* `Value.toJson`: the JSON scalar for a value.
-/

namespace SqlMapper

/-- A column value, or a literal of a statement. -/
inductive Value where
  | null
  | boolean (b : Bool)
  | integer (n : Int64)
  | float (x : Binary64)
  | timestamp (t : Timestamp)
  | date (d : Date)
  | time (t : TimeOfDay)
  | text (s : String)
  /-- Bytes that are no text. -/
  | bytes (b : Bytes)
deriving DecidableEq

namespace Value

def isNull : Value → Bool
  | null => true
  | _ => false

/-- The name of a value's kind. -/
def typeName : Value → String
  | null => "null"
  | boolean _ => "boolean"
  | integer _ => "integer"
  | float _ => "float"
  | timestamp _ => "timestamp"
  | date _ => "date"
  | time _ => "time"
  | text _ => "text"
  | bytes _ => "bytes"

def integer? : Value → Option Int64
  | integer n => some n
  | _ => none

def text? : Value → Option String
  | text s => some s
  | _ => none

/-- Equality as values: a float that is not a number equals nothing, and the zeros are equal. -/
def valueEq : Value → Value → Bool
  | float x, float y => x.valueEq y
  | v, w => v = w

/-- A column's bytes without any conversion: text if they are UTF-8 (`Value.from_raw`). -/
def ofRaw (b : Bytes) : Value :=
  match Bytes.decode? b with
  | some s => text s
  | none => bytes b

/-- An unsigned number, kept as text if it does not fit a signed one (`Value.from`). -/
def ofUnsigned (n : UInt64) : Value :=
  if n.toNat < 9223372036854775808 then integer (Int64.ofNat n.toNat)
  else text (String.ofList (Number.decimal n.toNat))

/-- The JSON scalar for a value; bytes are written in base64 (`Value.serialize`). -/
def toJson : Value → Json
  | null => .null
  | boolean b => .bool b
  | integer n => .number (Number.signed n.toInt)
  | float x => .number x.json
  | timestamp t => .string (String.ofList (t.text 'T'))
  | date d => .string (String.ofList d.text)
  | time t => .string (String.ofList t.text)
  | text s => .string s
  | bytes b => .string (String.ofList (Bytes.base64 b))

end Value

end SqlMapper
