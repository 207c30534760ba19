import SqlMapper.CommandLine.Grammar
import SqlMapper.Config.Database

/-!
# The arguments of the program

The program has a database, a few switches, and a command with arguments of its own.

* `Arguments.read`: the arguments that a command line gives.
* `Arguments.config`: the configuration for the database.
-/

namespace SqlMapper.CommandLine

/-- What is done about a join table (`JoinTableAction`). -/
inductive JoinAction where
  | status
  | create
  | recreate
deriving DecidableEq

/-- What the program does. -/
inductive Command where
  | tables
  | query (sql : String) (qualified : Bool)
  | joinTable (action : JoinAction) (source destination : String)
deriving DecidableEq

/-- The arguments of the program (`Config`). -/
structure Arguments where
  database : String
  logLevel : String
  jsonLogs : Bool
  logSql : Bool
  command : Command
deriving DecidableEq

/-! ## Levels -/

/-- The switch that asks for help. -/
def helpSwitch : Switch := ⟨"help", some 'h', .help⟩

/-- The outermost level. -/
def topLevel : Level where
  command? := none
  switches := [⟨"database", some 'd', .value⟩, ⟨"log-level", none, .value⟩,
    ⟨"json-logs", none, .flag⟩, ⟨"log-sql", none, .flag⟩, helpSwitch, ⟨"version", some 'V', .version⟩]
  positionals := []
  commands := ["tables", "query", "join-table", "help"]

/-- The level of a command. -/
def commandLevel (name : String) : Level :=
  match name with
  | "query" => ⟨some name, [⟨"qualified", none, .flag⟩, helpSwitch], [none], []⟩
  | "join-table" =>
    ⟨some name, [helpSwitch], [some ["status", "create", "recreate"], none, none], []⟩
  | _ => ⟨some name, [helpSwitch], [], []⟩

/-! ## Reading -/

/-- What the help command says about its arguments. -/
def helpFault : List String → Fault
  | [] => .help none true
  | [name] => if topLevel.commands.contains name then .help (some name) true else .unknownCommand
  | _ => .unknownCommand

/-- The action of a name. -/
def JoinAction.ofName? : String → Option JoinAction
  | "status" => some .status
  | "create" => some .create
  | "recreate" => some .recreate
  | _ => none

/-- The command for the arguments of its level. -/
def commandOf (name : String) (p : Progress) : Except Fault Command :=
  match name, p.positionals with
  | "tables", _ => .ok .tables
  | "query", [sql] => .ok (.query sql (p.flag "qualified"))
  | "join-table", [action, source, destination] =>
    match JoinAction.ofName? action with
    | some action => .ok (.joinTable action source destination)
    | none => .error .invalidValue
  | _, _ => .error .missingArgument

/-- A command with its arguments. -/
def readCommand (name : String) (args : List String) : Except Fault Command := do
  if name = "help" then throw (helpFault args)
  let (p, _) ← (commandLevel name).read false .start args
  commandOf name (← p.settle)

/-- The arguments that a command line gives (`Config.parse_args`). The command is read before the switches
    before it are taken up. -/
def Arguments.read (args : List String) : Except Fault Arguments := do
  let (p, command?) ← topLevel.read false .start args
  let command? ← command?.mapM fun (name, rest) => readCommand name rest
  let p ← p.settle
  match command?, p.value? "database" with
  | none, _ => throw (if p.given = [] then .noArguments else .missingCommand)
  | some _, none => throw .missingArgument
  | some command, some database =>
    return ⟨database, (p.value? "log-level").getD "info", p.flag "json-logs", p.flag "log-sql",
      command⟩

/-- The configuration for the database; the switch for logging wins over the URL
    (`Config.database_config`). -/
def Arguments.config (a : Arguments) : Except ConfigError DatabaseConfig := do
  let c ← DatabaseConfig.ofUrl a.database
  return { c with logSql := c.logSql || a.logSql }

end SqlMapper.CommandLine
