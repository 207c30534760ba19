import SqlMapper.CommandLine.Arguments
import SqlMapper.CommandLine.Help
import SqlMapper.Model.JoinTable

/-!
# What the program prints

A command is carried out through the adapter, and what it finds is printed as JSON: lists and reports
over several lines, the rows of a query one a line as they come.

* `Command.perform`: a command, with what it prints and how it ends.
* `Exit.ofFault`: what the program does when there is no command to carry out.
-/

namespace SqlMapper.CommandLine

/-! ## Commands -/

/-- A text followed by a line break. -/
def line (s : String) : String := s ++ "\n"

/-- The storage of join tables that the program creates. -/
def storage : StorageOptions := ⟨some "InnoDB", some "utf8mb4"⟩

/-- The types that the program gives to two tables, and the join table between them. -/
def joinTableFor (source destination : String) : Except Error (Inflector × JoinTable) := do
  let empty := Catalog.empty .english
  let declare (c : Catalog) (table : String) : Catalog :=
    (c.register (.ofTable (c.inflector.classify table) table)).2
  let c := declare (declare empty source) destination
  return (c.inflector,
    .between (← c.resolve (.named source)) (← c.resolve (.named destination)) storage)

variable {m : Type → Type} [Monad m] [Backend m]

/-- The report on a join table after an action. -/
def joinReport (action : JoinAction) (i : Inflector) (j : JoinTable) : Task m Json := do
  let name := ("name", Json.string (j.name i))
  match action with
  | .status => do
    let found ← j.exists? i
    return .object [("exists", .bool found), ("keys", Json.strings (j.keys i)), name]
  | .create => do
    let created ← j.createTable i
    return .object [("created", .bool created), name]
  | .recreate => do
    let created ← j.recreateTable i
    return .object [("created", .bool created), name]

/-- Prints a row on a line of its own. -/
def printRow (text : String) (r : Record) : String × Except Error Unit :=
  (text ++ line r.toJson.text, .ok ())

/-- Carries out a command: what it prints, and whether it succeeded (`run`). -/
def Command.perform (c : Command) : m (String × Bool) := do
  match c with
  | tables =>
    match ← (Adapter.listTables : Task m (List String)).run with
    | .ok names => return (line (Json.strings names).pretty, true)
    | .error _ => return ("", false)
  | query sql qualified =>
    match ← (Adapter.query sql qualified "" printRow : Task m (String × Except Error Nat)).run with
    | .ok (text, result) => return (text, result.isOk)
    | .error _ => return ("", false)
  | joinTable action source destination =>
    match joinTableFor source destination with
    | .error _ => return ("", false)
    | .ok (i, j) =>
      match ← (joinReport action i j : Task m Json).run with
      | .ok report => return (line report.pretty, true)
      | .error _ => return ("", false)

/-! ## The end of the program -/

/-- What the program printed, and the code that it ends with. -/
structure Exit where
  printed : String
  code : UInt8
deriving DecidableEq

namespace Exit

/-- The end after a command. -/
def ofCommand (printed : String) (succeeded : Bool) : Exit := ⟨printed, if succeeded then 0 else 1⟩

/-- The end without a connection, or without a configuration for one. -/
def unconnected : Exit := ⟨"", 1⟩

/-- The end for a command line that names no command. -/
def ofFault : Fault → Exit
  | .help command? full => ⟨helpText command? full, 0⟩
  | .version => ⟨versionText, 0⟩
  | _ => ⟨"", 2⟩

end Exit

end SqlMapper.CommandLine
