import SqlMapper.Number.Decimal
import SqlMapper.Text.Split
import SqlMapper.Url.Percent

/-!
# Hosts

The host of a URL: an address in brackets, or a name. Schemes of the web have names of the domain
system, and read a name that ends in a number as an address; for other schemes a name is any text.

* `Host.ofText`: the host as it is written in a URL.
* `Address.read?`, `Address.text`: addresses of eight groups.
-/

namespace SqlMapper

/-- Why a text is no URL. -/
inductive UrlError where
  | emptyHost
  | domainName
  | port
  | shortAddress
  | longAddress
  | domainCharacter
  | noScheme
deriving DecidableEq

/-- The wording of a `UrlError`. -/
def UrlError.message : UrlError → String
  | emptyHost => "empty host"
  | domainName => "invalid international domain name"
  | port => "invalid port number"
  | shortAddress => "invalid IPv4 address"
  | longAddress => "invalid IPv6 address"
  | domainCharacter => "invalid domain character"
  | noScheme => "relative URL without a base"

namespace Address

/-! ## Addresses of eight groups -/

/-- The number of hexadecimal digits. -/
def readHex? (s : List Char) : Option Nat :=
  if s.isEmpty then none
  else s.foldl (fun n c => do return (← n) * 16 + (← Bytes.hexValue? c)) (some 0)

/-- One group: up to four hexadecimal digits. -/
def readGroup? (s : List Char) : Option Nat := if s.length ≤ 4 then readHex? s else none

/-- One of the four numbers of a short address: up to 255, without leading zeros. -/
def readOctet? (s : List Char) : Option Nat :=
  if s.head? = some '0' ∧ s ≠ ['0'] then none else (Number.readNat? s).filter (· < 256)

/-- A short address as two groups. -/
def readShort? (s : List Char) : Option (List Nat) :=
  match (Text.splitOn '.' s).map readOctet? with
  | [some a, some b, some c, some d] => some [a * 256 + b, c * 256 + d]
  | _ => none

/-- Groups with colons between; the last two may be written as a short address. -/
def readGroups? : List (List Char) → Option (List Nat)
  | [] => some []
  | [last] => if '.' ∈ last then readShort? last else (readGroup? last).map fun n => [n]
  | part :: next :: rest => do
    return (← readGroup? part) :: (← readGroups? (next :: rest))

/-- Groups on one side of a gap; there may be none. -/
def readSide? (s : List Char) : Option (List Nat) :=
  if s.isEmpty then some [] else readGroups? (Text.splitOn ':' s)

/-- The parts before and after the first double colon. -/
def splitAtGap? : List Char → Option (List Char × List Char)
  | ':' :: ':' :: rest => some ([], rest)
  | c :: rest => (splitAtGap? rest).map fun (before, after) => (c :: before, after)
  | [] => none

/-- Reads an address: eight groups, or fewer with one gap that stands for zeros. -/
def read? (s : List Char) : Option (List Nat) :=
  match splitAtGap? s with
  | none => (readSide? s).filter (·.length = 8)
  | some (before, after) => do
    if '.' ∈ before then none
    let before ← readSide? before
    let after ← readSide? after
    if before.length + after.length ≤ 7 then
      some (before ++ List.replicate (8 - before.length - after.length) 0 ++ after)
    else none

/-- The number of zeros at the front of a list. -/
def leadingZeros (groups : List Nat) : Nat := (groups.takeWhile (· = 0)).length

/-- The place and the length of the first longest run of zeros. -/
def longestZeros : Nat → List Nat → Nat × Nat
  | _, [] => (0, 0)
  | place, g :: rest =>
    let here := leadingZeros (g :: rest)
    let later := longestZeros (place + 1) rest
    if here = 0 ∨ here < later.2 then later else (place, here)

/-- Groups with colons between. -/
def groupsText (groups : List Nat) : List Char :=
  Text.joinWith [':'] (groups.map (Nat.toDigits 16))

/-- The text of an address; the first longest run of two or more zeros is left out. -/
def text (groups : List Nat) : List Char :=
  let (place, length) := longestZeros 0 groups
  if length < 2 then groupsText groups
  else groupsText (groups.take place) ++ [':', ':'] ++ groupsText (groups.drop (place + length))

/-! ## Short addresses of the web -/

/-- A number of a short address: hexadecimal after `0x`, octal after another zero, else decimal. -/
def readLoose? (s : List Char) : Option Nat :=
  match s with
  | [] => none
  | ['0', x] => if x = 'x' ∨ x = 'X' then some 0 else octal? [x]
  | '0' :: x :: rest => if x = 'x' ∨ x = 'X' then readHex? rest else octal? (x :: rest)
  | _ => Number.readNat? s
where
  /-- The number of octal digits. -/
  octal? (s : List Char) : Option Nat :=
    s.foldl (fun n c => if '0' ≤ c ∧ c ≤ '7' then n.map (· * 8 + (c.toNat - 48)) else none) (some 0)

/-- The parts of a name; a dot at its end is left out. -/
def nameParts (s : List Char) : List (List Char) :=
  let parts := Text.splitOn '.' s
  if parts.getLast? = some [] ∧ 1 < parts.length then parts.dropLast else parts

/-- Whether a name is read as a short address. -/
def endsInNumber (s : List Char) : Bool :=
  match (nameParts s).getLast? with
  | some last => Number.isDigits last || (readLoose? last).isSome
  | none => false

/-- The value of a short address whose last number fills the places that are left. -/
def looseValue? (numbers : List Nat) : Option Nat :=
  match numbers.reverse with
  | [] => none
  | last :: others =>
    if others.length ≤ 3 ∧ others.all (· < 256) ∧ last < Nat.pow 256 (4 - others.length) then
      some (others.foldr (fun n v => v * 256 + n) 0 * Nat.pow 256 (4 - others.length) + last)
    else none

/-- A name that ends in a number as four numbers with dots between. -/
def shortText? (s : List Char) : Option (List Char) := do
  let value ← looseValue? (← (nameParts s).mapM readLoose?)
  return Text.joinWith ['.'] ([3, 2, 1, 0].map fun i => Number.decimal (value / Nat.pow 256 i % 256))

end Address

namespace Host

/-- What a name may not hold, whatever the scheme. -/
def isForbidden (c : Char) : Bool :=
  [Char.ofNat 0, '\t', '\n', '\r', ' ', '#', '/', ':', '<', '>', '?', '@', '[', '\\', ']', '^',
    '|'].contains c

/-- A name of a scheme that is none of the web. -/
def ofName (s : List Char) : Except UrlError (List Char) :=
  if s.any isForbidden then .error .domainCharacter else .ok (Percent.encode Percent.control s)

/-- A name of the web, in lower case, or a short address. Letters outside ASCII stay as they are. -/
def ofDomain (s : List Char) : Except UrlError (List Char) :=
  match Bytes.decode? (Percent.decode s) with
  | none => .error .domainName
  | some name =>
    let name := name.toList.map Char.toLower
    if name.any fun c => isForbidden c || c = '%' || c.toNat < 0x20 || c.toNat = 0x7F then
      .error .domainName
    else if name.isEmpty then .error .emptyHost
    else if Address.endsInNumber name then
      match Address.shortText? name with
      | some text => .ok text
      | none => .error .shortAddress
    else .ok name

/-- A host as it is written in a URL. -/
def ofText (web : Bool) (s : List Char) : Except UrlError (List Char) :=
  match s with
  | '[' :: rest =>
    match rest.getLast?, Address.read? rest.dropLast with
    | some ']', some groups => .ok ('[' :: Address.text groups ++ [']'])
    | _, _ => .error .longAddress
  | _ => if web then ofDomain s else ofName s

end Host

end SqlMapper
