import SqlMapper.Client.Error
import SqlMapper.Text.Quoted
import SqlMapper.Url.Reader

/-!
# Where a connection string leads

The client reads a connection string before it opens a connection: user and password have to be texts,
and the options that it knows have to have values of their kind. The string leads to a socket, or to a
port of a host.

* `Endpoint.ofConnectionString`: where the client connects to.
-/

namespace SqlMapper

/-- Where the client connects to. -/
inductive Endpoint where
  | socket (path : String)
  | network (host : String) (port : Nat)
deriving DecidableEq

namespace Endpoint

/-- The kinds of transport security that a connection string may ask for. -/
def securityModes : List String :=
  ["disabled", "preferred", "required", "verify_ca", "verify_identity"]

/-- A number of statements. -/
def checkCapacity (value : String) : Except ClientError Unit :=
  let digits := match value.toList with
    | '+' :: c :: rest => c :: rest
    | s => s
  if value = "" then .error (.configuration "cannot parse integer from empty string")
  else if !Number.isDigits digits then .error (.configuration "invalid digit found in string")
  else if UInt64.size ≤ Number.ofDigits digits then
    .error (.configuration "number too large to fit in target type")
  else .ok ()

/-- A percent-encoded text. -/
def checkText (s : List Char) : Except ClientError Unit :=
  match Bytes.fault? (Percent.decode s) with
  | some fault => .error (.configuration fault.message)
  | none => .ok ()

/-- An option of a connection string, if the client knows it. -/
def checkOption (p : String × String) : Except ClientError Unit :=
  if p.1 = "sslmode" ∨ p.1 = "ssl-mode" then
    if securityModes.contains (String.ofList (p.2.toList.map Char.toLower)) then .ok ()
    else
      let cause := "unknown value " ++ Text.quoted p.2 ++ " for \x60ssl_mode\x60"
      .error (.configuration (ClientError.configuration cause).text)
  else if p.1 = "statement-cache-capacity" then checkCapacity p.2
  else .ok ()

/-- Where the client connects to. -/
def ofConnectionString (text : String) : Except ClientError Endpoint := do
  let url ← (Url.ofText text.toList).mapError fun e => .configuration e.message
  let authority := url.authority?.getD ⟨[], [], [], none⟩
  checkText authority.username
  checkText authority.password
  url.pairs.forM checkOption
  match url.pairs.reverse.lookup "socket" with
  | some path => return .socket path
  | none =>
    let host := if authority.host = [] then "localhost" else String.ofList authority.host
    return .network host (authority.port?.getD 3306)

end Endpoint

end SqlMapper
