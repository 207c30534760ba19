import SqlMapper.Url.Basic

/-!
# Reading URLs

A text is cleared of blanks around it and of line breaks and tabs inside, and taken apart: the fragment
after the first hash, the query after the first question mark, the server between two slashes and the
next one, and the path. Steps to a parent or to the same place are carried out. Schemes of the web
always have a server, and may have backslashes for slashes. The scheme of files has at most the name of
a machine, and backslashes too.

* `Url.ofText`: the URL that a text is.
* `Url.normalizePath`: a path without steps to a parent.
-/

namespace SqlMapper.Url

/-! ## Schemes -/

/-- The port that a scheme of the web has if none is named. -/
def webPort? (scheme : List Char) : Option Nat :=
  match String.ofList scheme with
  | "http" | "ws" => some 80
  | "https" | "wss" => some 443
  | "ftp" => some 21
  | _ => none

/-- Whether a scheme is one of the web. -/
def isWeb (scheme : List Char) : Bool := (webPort? scheme).isSome

/-- Whether a scheme is that of files. -/
def isFile (scheme : List Char) : Bool := String.ofList scheme == "file"

/-- Whether a character may stand in a scheme. -/
def isSchemeChar (c : Char) : Bool := c.isAlphanum || ['+', '-', '.'].contains c

/-- The scheme in lower case, and what follows its colon. -/
def splitScheme? (s : List Char) : Option (List Char × List Char) :=
  match Text.splitAtFirst ':' s with
  | (scheme, some rest) =>
    if (scheme.head?.map Char.isAlpha).getD false && scheme.all isSchemeChar then
      some (scheme.map Char.toLower, rest)
    else none
  | (_, none) => none

/-! ## Servers -/

/-- A user as name and password, percent-encoded. -/
def readUser (s : List Char) : List Char × List Char :=
  let (username, password) := Text.splitAtFirst ':' s
  (Percent.encode Percent.inUserInfo username, Percent.encode Percent.inUserInfo (password.getD []))

/-- A host and what follows it: a colon inside brackets is part of the host. -/
def splitHost (inside : Bool) : List Char → List Char × List Char
  | [] => ([], [])
  | c :: rest =>
    if c = ':' ∧ !inside then ([], c :: rest)
    else
      let (host, after) := splitHost (if c = '[' then true else if c = ']' then false else inside) rest
      (c :: host, after)

/-- A port after its colon, and what follows it: nothing, or a backslash. Without digits there is no
    port, and neither if it is the scheme's own. -/
def readPort (standard? : Option Nat) (s : List Char) : Except UrlError (Option Nat × List Char) :=
  let digits := s.takeWhile Char.isDigit
  let rest := s.dropWhile Char.isDigit
  let port := Number.ofDigits digits
  if 65536 ≤ port ∨ (rest ≠ [] ∧ rest.head? ≠ some '\\') then .error .port
  else if digits = [] ∨ some port = standard? then .ok (none, rest)
  else .ok (some port, rest)

/-- Host and port, and what follows them. -/
def readServer (scheme s : List Char) : Except UrlError ((List Char × Option Nat) × List Char) := do
  let (hostText, after) := splitHost false s
  if isWeb scheme ∧ hostText = [] then throw .emptyHost
  let host ← Host.ofText (isWeb scheme) hostText
  match after with
  | [] => return ((host, none), [])
  | _ :: after =>
    if host = [] then throw .emptyHost
    let (port?, rest) ← readPort (webPort? scheme) after
    return ((host, port?), rest)

/-- What stands between the slashes and the path, and what of it belongs to the path. `ends` says whether
    nothing follows in the whole URL. -/
def readAuthority (scheme : List Char) (ends : Bool) (s : List Char) :
    Except UrlError (Authority × List Char) := do
  match Text.splitAtLast? '@' s with
  | none =>
    let ((host, port?), rest) ← readServer scheme s
    return (⟨[], [], host, port?⟩, rest)
  | some ([], server) =>
    if server = [] ∧ !ends then throw .emptyHost
    let ((host, port?), rest) ← readServer scheme server
    return (⟨[], [], host, port?⟩, rest)
  | some (user, server) =>
    let (username, password) := readUser user
    let ((host, port?), rest) ← readServer scheme server
    if host = [] ∧ (username ≠ [] ∨ password ≠ []) then throw .emptyHost
    return (⟨username, password, host, port?⟩, rest)

/-! ## Paths -/

/-- A step with every encoded dot as a dot. -/
def plainDots : List Char → List Char
  | '%' :: '2' :: 'e' :: rest => '.' :: plainDots rest
  | '%' :: '2' :: 'E' :: rest => '.' :: plainDots rest
  | c :: rest => c :: plainDots rest
  | [] => []

/-- Whether a step names a drive, which a step to a parent does not leave. -/
def namesDrive : List Char → Bool
  | c :: mark :: rest => c.isAlpha && (mark = ':' || mark = '|') && (rest = [] || rest.head? = some '\\')
  | _ => false

/-- Carries out steps, the last of which is not followed by a slash. `before` holds the steps so far,
    the last one first; the first of all stands before the root's slash. -/
def followSteps (before : List (List Char)) : List (List Char) → List (List Char)
  | [] => before.reverse
  | step :: rest =>
    let isLast := rest.isEmpty
    let kept (before : List (List Char)) := if isLast then [] :: before else before
    if plainDots step = ['.', '.'] then
      match before with
      | parent :: other :: more =>
        if namesDrive parent then followSteps (kept before) rest
        else followSteps (kept (other :: more)) rest
      | _ => followSteps (kept before) rest
    else if plainDots step = ['.'] then followSteps (kept before) rest
    else followSteps (step :: before) rest

/-- A path with its steps carried out, percent-encoded. -/
def normalizePath (web : Bool) (s : List Char) : List Char :=
  let s := if web then s.map fun c => if c = '\\' then '/' else c else s
  Text.joinWith ['/'] (followSteps [] (Text.splitOn '/' (Percent.encode Percent.inPath s)))

/-- The path after a server. One of the web is never empty, and one that does not start with a slash
    gets one. -/
def pathAfterServer (web : Bool) (s : List Char) : List Char :=
  match s with
  | [] => if web then ['/'] else []
  | c :: _ => normalizePath web (if c = '/' ∨ (web ∧ c = '\\') then s else '/' :: s)

/-! ## Files -/

/-- Whether a character parts the steps of a file's path. -/
def isFileSlash (c : Char) : Bool := c = '/' || c = '\\'

/-- Whether a text is a drive's letter with its mark. -/
def isDrive : List Char → Bool
  | [c, mark] => c.isAlpha && (mark = ':' || mark = '|')
  | _ => false

/-- A machine's name as the server of a URL; the machine itself needs no name. -/
def readMachine (name : List Char) : Except UrlError (List Char) := do
  if name = [] then return []
  let host ← Host.ofText true name
  return if host = "localhost".toList then [] else host

/-- The machine, if two slashes announce one, and the path. A drive after the slashes begins the
    path. -/
def readFile (s : List Char) : Except UrlError (List Char × List Char) := do
  match s with
  | a :: b :: rest =>
    let name := rest.takeWhile fun c => !isFileSlash c
    if !(isFileSlash a && isFileSlash b) then return ([], pathAfterServer true s)
    else if isDrive name then return ([], pathAfterServer true rest)
    else return (← readMachine name, pathAfterServer true (rest.drop name.length))
  | _ => return ([], pathAfterServer true s)

/-! ## Whole URLs -/

/-- A text without blanks and controls around it, and without line breaks and tabs. -/
def clean (s : List Char) : List Char :=
  let isMargin (c : Char) : Bool := c.toNat ≤ 0x20
  ((s.dropWhile isMargin).reverse.dropWhile isMargin).reverse.filter fun c =>
    c ≠ '\t' && c ≠ '\n' && c ≠ '\r'

/-- The server, if there is one, and the path. `ends` says whether neither query nor fragment
    follows. -/
def readHierarchy (scheme : List Char) (ends : Bool) (s : List Char) :
    Except UrlError (Option Authority × List Char) := do
  if isFile scheme then
    let (machine, path) ← readFile s
    return (some ⟨[], [], machine, none⟩, path)
  let web := isWeb scheme
  let endsServer (c : Char) : Bool := c = '/' || (web && c = '\\')
  if web ∨ ['/', '/'].isPrefixOf s then
    let s := if web then s.dropWhile endsServer else s.drop 2
    let server := s.takeWhile fun c => !endsServer c
    let path := s.dropWhile fun c => !endsServer c
    let (authority, rest) ← readAuthority scheme (ends && path.isEmpty) server
    return (some authority, pathAfterServer web (rest ++ path))
  else if s.head? = some '/' then return (none, normalizePath false s)
  else return (none, Percent.encode Percent.control s)

/-- The URL that a text is. -/
def ofText (s : List Char) : Except UrlError Url := do
  match splitScheme? (clean s) with
  | none => throw .noScheme
  | some (scheme, rest) =>
    let (rest, fragment?) := Text.splitAtFirst '#' rest
    let (rest, query?) := Text.splitAtFirst '?' rest
    let (authority?, path) ← readHierarchy scheme (fragment?.isNone && query?.isNone) rest
    let inQuery (c : Char) : Bool := Percent.inQuery c || ((isWeb scheme || isFile scheme) && c = '\'')
    return ⟨scheme, authority?, path, query?.map (Percent.encode inQuery),
      fragment?.map (Percent.encode Percent.inFragment)⟩

end SqlMapper.Url
