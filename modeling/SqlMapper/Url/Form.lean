import SqlMapper.Text.Split
import SqlMapper.Url.Percent

/-!
# Query pairs

A query as pairs of a name and a value: pairs are joined by ampersands, names and values by equals
signs, and a blank is written as a plus sign.

* `Form.read`: the pairs of a query.
* `Form.write`: the query for pairs.
-/

namespace SqlMapper.Form

/-- A name or a value as text. -/
def readPart (s : List Char) : String :=
  Bytes.decodeLossy (Percent.decode (Text.replaceChar '+' [' '] s))

/-- A pair; without an equals sign the value is empty. -/
def readPair (s : List Char) : String × String :=
  let (name, value) := Text.splitAtFirst '=' s
  (readPart name, readPart (value.getD []))

/-- The pairs of a query; where nothing stands between ampersands there is none. -/
def read (query : List Char) : List (String × String) :=
  ((Text.splitOn '&' query).filter (· ≠ [])).map readPair

/-- Whether a byte stands for itself in a pair. -/
def isPlain (b : UInt8) : Bool :=
  let c := Char.ofNat b.toNat
  b.toNat < 0x80 && (c.isAlphanum || ['*', '-', '.', '_'].contains c)

/-- A byte of a name or a value. -/
def writeByte (b : UInt8) : List Char :=
  if isPlain b then [Char.ofNat b.toNat]
  else if b = 0x20 then ['+']
  else Percent.encodeByte b

/-- A name or a value as it stands in a query. -/
def writePart (s : String) : List Char := (Bytes.encode s).flatMap writeByte

/-- A pair as it stands in a query. -/
def writePair (p : String × String) : List Char := writePart p.1 ++ '=' :: writePart p.2

/-- The query for pairs. -/
def write (pairs : List (String × String)) : List Char :=
  Text.joinWith ['&'] (pairs.map writePair)

end SqlMapper.Form
