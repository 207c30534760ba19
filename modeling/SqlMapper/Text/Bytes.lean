/-!
# Bytes and text

Bytes as the server sends them, and the UTF-8 reading of them: a strict one, which accepts exactly
the encodings of texts, and a lossy one, which puts the replacement character for what is not UTF-8.

* `decode?_encode`, `encode_of_decode?`: reading and writing UTF-8 are inverse to each other.
* `hex`: two digits a byte.
-/

namespace SqlMapper

/-- A byte string. -/
abbrev Bytes := List UInt8

namespace Bytes

/-! ## Strict reading -/

/-- The UTF-8 encoding of a text. -/
def encode (s : String) : Bytes := s.toUTF8.data.toList

/-- The text that the bytes encode, if they encode one. -/
def decode? (b : Bytes) : Option String := String.fromUTF8? b.toByteArray

theorem toByteArray_encode (s : String) : (encode s).toByteArray = s.toUTF8 := by
  apply ByteArray.ext
  simp [encode]

theorem decode?_encode (s : String) : decode? (encode s) = some s := by
  unfold decode? String.fromUTF8?
  rw [toByteArray_encode, String.toUTF8_eq_toByteArray, dif_pos s.isValidUTF8]
  rfl

theorem encode_of_decode? {b : Bytes} {s : String} (h : decode? b = some s) : encode s = b := by
  unfold decode? String.fromUTF8? at h
  split at h
  · rw [Option.some.injEq] at h
    subst h
    change b.toByteArray.data.toList = b
    simp
  · contradiction

/-! ## Lossy reading -/

/-- An unfinished character: the bits read so far, the bytes still owed after the next one, and the
    range that the next byte has to lie in. -/
structure Pending where
  code : Nat
  owed : Nat
  low : UInt8
  high : UInt8

/-- What a byte between characters is: a character, the start of one, or neither. -/
inductive Lead where
  | char (c : Char)
  | start (p : Pending)
  | stray

/-- The role of a byte between characters. -/
def lead (b : UInt8) : Lead :=
  let n := b.toNat
  if n < 0x80 then .char (Char.ofNat n)
  else if n < 0xC2 then .stray
  else if n < 0xE0 then .start ⟨n % 0x20, 0, 0x80, 0xBF⟩
  else if n < 0xF0 then
    .start ⟨n % 0x10, 1, if n = 0xE0 then 0xA0 else 0x80, if n = 0xED then 0x9F else 0xBF⟩
  else if n < 0xF5 then
    .start ⟨n % 0x08, 2, if n = 0xF0 then 0x90 else 0x80, if n = 0xF4 then 0x8F else 0xBF⟩
  else .stray

/-- The replacement character, which stands for bytes that are no character. -/
def replacement : Char := Char.ofNat 0xFFFD

/-- Reads bytes in the middle of an unfinished character, or between characters. A byte that does not
    continue the unfinished character ends it, and is read anew. -/
def decodeFrom : Option Pending → Bytes → List Char
  | none, [] => []
  | some _, [] => [replacement]
  | pending, b :: rest =>
    let fresh (_ : Unit) : List Char :=
      match lead b with
      | .char c => c :: decodeFrom none rest
      | .start p => decodeFrom (some p) rest
      | .stray => replacement :: decodeFrom none rest
    match pending with
    | none => fresh ()
    | some p =>
      if p.low ≤ b && b ≤ p.high then
        let code := p.code * 0x40 + b.toNat % 0x40
        match p.owed with
        | 0 => Char.ofNat code :: decodeFrom none rest
        | owed + 1 => decodeFrom (some ⟨code, owed, 0x80, 0xBF⟩) rest
      else replacement :: fresh ()

/-- The bytes as a text, with the replacement character for every longest start of a character that
    is not finished and every byte that starts none. -/
def decodeLossy (b : Bytes) : String := String.ofList (decodeFrom none b)

/-! ## Faults -/

/-- Why bytes are no text: at a place stands what begins no character, of the given length, or the bytes
    end inside a character. -/
structure TextFault where
  place : Nat
  length? : Option Nat
deriving DecidableEq

/-- The wording of a `TextFault`. -/
def TextFault.message (f : TextFault) : String :=
  match f.length? with
  | some length =>
    "invalid utf-8 sequence of " ++ Nat.repr length ++ " bytes from index " ++ Nat.repr f.place
  | none => "incomplete utf-8 byte sequence from index " ++ Nat.repr f.place

/-- The first fault in bytes that start at `place`, or inside a character that started there and has so
    many bytes so far. -/
def faultFrom (place : Nat) : Option (Pending × Nat) → Bytes → Option TextFault
  | none, [] => none
  | some _, [] => some ⟨place, none⟩
  | none, b :: rest =>
    match lead b with
    | .char _ => faultFrom (place + 1) none rest
    | .start p => faultFrom place (some (p, 1)) rest
    | .stray => some ⟨place, some 1⟩
  | some (p, length), b :: rest =>
    if p.low ≤ b && b ≤ p.high then
      match p.owed with
      | 0 => faultFrom (place + length + 1) none rest
      | owed + 1 => faultFrom place (some (⟨0, owed, 0x80, 0xBF⟩, length + 1)) rest
    else some ⟨place, some length⟩

/-- The first fault of bytes, if they are no text. -/
def fault? (b : Bytes) : Option TextFault := faultFrom 0 none b

/-! ## Hexadecimal digits -/

/-- The hexadecimal digit for a number below 16. -/
def hexDigit (upper : Bool) (n : Nat) : Char :=
  if n < 10 then Char.ofNat (n + 48) else Char.ofNat (n + if upper then 55 else 87)

/-- Two digits for every byte. -/
def hex (upper : Bool) (b : Bytes) : List Char :=
  b.flatMap fun x => [hexDigit upper (x.toNat / 16), hexDigit upper (x.toNat % 16)]

/-- The number that a hexadecimal digit of either case stands for. -/
def hexValue? (c : Char) : Option Nat :=
  if '0' ≤ c && c ≤ '9' then some (c.toNat - 48)
  else if 'a' ≤ c && c ≤ 'f' then some (c.toNat - 87)
  else if 'A' ≤ c && c ≤ 'F' then some (c.toNat - 55)
  else none

theorem hexValue?_hexDigit : ∀ n < 16, hexValue? (hexDigit true n) = some n := by
  decide

/-- The bytes that pairs of hexadecimal digits stand for. -/
def ofHex? : List Char → Option Bytes
  | [] => some []
  | [_] => none
  | a :: b :: rest => do
    let high ← hexValue? a
    let low ← hexValue? b
    return UInt8.ofNat (high * 16 + low) :: (← ofHex? rest)

end Bytes

end SqlMapper
