import SqlMapper.Url.Form
import SqlMapper.Url.Host

/-!
# URLs

A URL in its parts, each as it is written, with what may not stand in it percent-encoded.

* `Url.text`: the URL as a text.
* `Url.pairs`, `Url.withPairs`: the query as pairs.
-/

namespace SqlMapper

/-- What stands between the slashes: the server, and the user if one is named. -/
structure Authority where
  username : List Char
  /-- Empty if there is none. -/
  password : List Char
  /-- Empty if there is none. -/
  host : List Char
  port? : Option Nat
deriving DecidableEq

/-- A URL. -/
structure Url where
  scheme : List Char
  authority? : Option Authority
  path : List Char
  query? : Option (List Char)
  fragment? : Option (List Char)
deriving DecidableEq

namespace Authority

/-- The user with an at sign, if one is named. -/
def userText (a : Authority) : List Char :=
  let password := if a.password = [] then [] else ':' :: a.password
  if a.username = [] ∧ password = [] then [] else a.username ++ password ++ ['@']

/-- The server and the user as they are written. -/
def text (a : Authority) : List Char :=
  a.userText ++ a.host ++
    match a.port? with
    | some port => ':' :: Number.decimal port
    | none => []

end Authority

namespace Url

/-- Whether the path is a text of its own, and no steps from a root. -/
def hasOpaquePath (u : Url) : Bool := u.authority?.isNone && u.path.head? ≠ some '/'

/-- What stands before the path. Without a server, a path with an empty first step is set off, so that
    its slashes do not announce a server. -/
def beforePath (u : Url) : List Char :=
  match u.authority? with
  | some a => '/' :: '/' :: a.text
  | none => if ['/', '/'].isPrefixOf u.path then ['/', '.'] else []

/-- The URL as a text. -/
def text (u : Url) : List Char :=
  u.scheme ++ ':' :: u.beforePath ++ u.path ++
    (match u.query? with
      | some query => '?' :: query
      | none => []) ++
    match u.fragment? with
    | some fragment => '#' :: fragment
    | none => []

/-- The last step of the path. -/
def lastStep (u : Url) : List Char := ((Text.splitOn '/' u.path).getLast?).getD []

/-! ## Query pairs -/

/-- The pairs of the query; none if there is no query. -/
def pairs (u : Url) : List (String × String) :=
  match u.query? with
  | some query => Form.read query
  | none => []

/-- The URL without a query. A path that is a text of its own loses the blanks at its end, unless a
    fragment follows. -/
def withoutQuery (u : Url) : Url :=
  let path := if u.hasOpaquePath ∧ u.fragment? = none then
      (u.path.reverse.dropWhile (· = ' ')).reverse
    else u.path
  { u with path, query? := none }

/-- The URL with a query of the given pairs, or without a query if there are none. -/
def withPairs (u : Url) (pairs : List (String × String)) : Url :=
  if pairs = [] then u.withoutQuery else { u with query? := some (Form.write pairs) }

end Url

end SqlMapper
