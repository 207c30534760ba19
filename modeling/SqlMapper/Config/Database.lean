import SqlMapper.Config.Pool
import SqlMapper.Url.Reader

/-!
# Database URLs

A database URL names the server, the user and the database, and in its query options. Some of them are
the library's own: they are taken out of the query, and the others stay for the client.

* `DatabaseConfig.ofUrl`: the configuration that a URL gives.
* `takeOptions`: the library's own options, and the pairs that stay.
* `maskPassword`: a connection string that may be shown.
-/

namespace SqlMapper

/-- What a database URL says. -/
structure DatabaseConfig where
  /-- The URL for the client. -/
  connectionString : String
  database? : Option String
  logSql : Bool
  pool : PoolOptions
deriving DecidableEq

/-- Why a text gives no configuration. -/
inductive ConfigError where
  | url (cause : UrlError)
  | scheme (name : String)
  | pool (fault : PoolFault)
deriving DecidableEq

/-- The wording of a `ConfigError`. -/
def ConfigError.message : ConfigError → String
  | url cause => "Invalid URL: " ++ cause.message
  | scheme name =>
    "Unsupported database scheme '" ++ name ++
      "'. Only mysql:// and mariadb:// URLs are supported."
  | pool fault => fault.message

namespace DatabaseConfig

/-! ## Options in a query -/

/-- The names of the options that are not for the client (`DatabaseConfig.OPTION_KEYS`). -/
def optionNames : List String :=
  ["log_sql", "max_connections", "min_connections", "idle_timeout", "acquire_timeout",
    "test_before_acquire"]

/-- A name without regard to the case of ASCII letters. -/
def plainName (name : String) : String := String.ofList (name.toList.map Char.toLower)

/-- The pairs that are options, by their plain names, and the pairs that stay
    (`DatabaseConfig.extract_options`). -/
def takeOptions (pairs : List (String × String)) : List (String × String) × List (String × String) :=
  let isOption (p : String × String) : Bool := optionNames.contains (plainName p.1)
  ((pairs.filter isOption).map fun p => (plainName p.1, p.2), pairs.filter fun p => !isOption p)

/-- The value of an option: the last one given counts. -/
def option? (options : List (String × String)) (name : String) : Option String :=
  options.reverse.lookup name

/-- A truth value in any letter case. -/
def readBool? (s : String) : Option Bool :=
  match plainName s with
  | "true" => some true
  | "false" => some false
  | _ => none

/-- The pool options among options (`DatabaseConfig.parse_pool_options`). What is no value of the option's
    kind leaves it unset. -/
def poolOptions (options : List (String × String)) : PoolOptions :=
  let number? (bound : Nat) (name : String) : Option Nat :=
    (option? options name).bind fun v => Number.readBelow? bound v.toList
  { maxConnections? := (number? UInt32.size "max_connections").map UInt32.ofNat
    minConnections? := (number? UInt32.size "min_connections").map UInt32.ofNat
    idleTimeout? := (number? UInt64.size "idle_timeout").map UInt64.ofNat
    acquireTimeout? := (number? UInt64.size "acquire_timeout").map UInt64.ofNat
    testBefore? := (option? options "test_before_acquire").bind readBool? }

/-! ## Whole URLs -/

/-- Whether a scheme is one of those that name the same kind of server. -/
def isSupported (scheme : List Char) : Bool :=
  String.ofList scheme == "mysql" || String.ofList scheme == "mariadb"

/-- The configuration that a URL gives (`DatabaseConfig.parse`). The client knows one scheme only, so that
    one is put in. -/
def ofUrl (text : String) : Except ConfigError DatabaseConfig := do
  let url ← (Url.ofText text.toList).mapError .url
  if !isSupported url.scheme then throw (.scheme (String.ofList url.scheme))
  let (options, rest) := takeOptions url.pairs
  let pool := poolOptions options
  pool.check.mapError .pool
  let url := { url with scheme := "mysql".toList }.withPairs rest
  let database := String.ofList url.lastStep
  return {
    connectionString := String.ofList url.text
    database? := if database = "" then none else some database
    logSql := (option? options "log_sql").bind readBool? = some true
    pool }

/-! ## Showing a connection string -/

/-- The text before and after the first `://`, which stays with the first part. -/
def splitAtServer? : List Char → Option (List Char × List Char)
  | ':' :: '/' :: '/' :: rest => some ([':', '/', '/'], rest)
  | c :: rest => (splitAtServer? rest).map fun (before, after) => (c :: before, after)
  | [] => none

/-- A connection string with four stars in the place of the password: of what stands between the first
    colon and the first at sign after the start of the server. -/
def maskPassword (text : String) : String :=
  match splitAtServer? text.toList with
  | none => text
  | some (start, rest) =>
    match Text.splitAtFirst '@' rest with
    | (_, none) => text
    | (user, some after) =>
      match Text.splitAtFirst ':' user with
      | (_, none) => text
      | (name, some _) =>
        String.ofList (start ++ name ++ [':', '*', '*', '*', '*', '@'] ++ after)

/-- The connection string as it may be shown (`DatabaseConfig.masked_connection_string`). -/
def masked (c : DatabaseConfig) : String := maskPassword c.connectionString

end DatabaseConfig

end SqlMapper
