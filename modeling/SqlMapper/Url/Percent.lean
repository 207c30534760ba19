import SqlMapper.Text.Bytes

/-!
# Percent encoding

Each part of a URL has characters that may not stand in it; they are written as their UTF-8 bytes, each
as a percent sign and two digits. Characters outside ASCII and controls are written so in every part.

* `Percent.encode`: a text with the characters of a set encoded.
* `Percent.decode`: the bytes of an encoded text.
-/

namespace SqlMapper.Percent

/-! ## Sets of characters -/

/-- What no part of a URL may hold. -/
def control (c : Char) : Bool := c.toNat < 0x20 || 0x7F ≤ c.toNat

/-- What is encoded in a fragment. -/
def inFragment (c : Char) : Bool := control c || [' ', '"', '<', '>', '`'].contains c

/-- What is encoded in a query. -/
def inQuery (c : Char) : Bool := control c || [' ', '"', '#', '<', '>'].contains c

/-- What is encoded in a path. -/
def inPath (c : Char) : Bool := inFragment c || ['#', '?', '{', '}'].contains c

/-- What is encoded in the name and the password of a user. -/
def inUserInfo (c : Char) : Bool :=
  inPath c || ['/', ':', ';', '=', '@', '[', '\\', ']', '^', '|'].contains c

/-! ## Encoding and decoding -/

/-- A byte as a percent sign and two digits. -/
def encodeByte (b : UInt8) : List Char := '%' :: Bytes.hex true [b]

/-- A text with the characters of a set encoded. -/
def encode (set : Char → Bool) (s : List Char) : List Char :=
  s.flatMap fun c => if set c then (Bytes.encode (String.singleton c)).flatMap encodeByte else [c]

/-- The bytes of an encoded text. A percent sign without two digits stands for itself. -/
def decode : List Char → Bytes
  | [] => []
  | '%' :: a :: b :: rest =>
    match Bytes.hexValue? a, Bytes.hexValue? b with
    | some high, some low => UInt8.ofNat (high * 16 + low) :: decode rest
    | _, _ => Bytes.encode "%" ++ decode (a :: b :: rest)
  | c :: rest => Bytes.encode (String.singleton c) ++ decode rest
termination_by s => s.length

end SqlMapper.Percent
