import SqlMapper.CommandLine.Report
import SqlMapper.Client.Endpoint

/-!
# The program

Reads the command line, checks the database URL, and prints what needs no server. This build has no
client for the network, so a command ends with the error of a server that cannot be reached.
-/

open SqlMapper SqlMapper.CommandLine

/-- Prints to standard output what the program has to say. -/
def finish (e : Exit) : IO UInt32 := do
  IO.print e.printed
  return e.code.toUInt32

/-- Gives the reason why a command was not carried out. -/
def refuse (reason : String) : IO UInt32 := do
  IO.eprintln ("error: " ++ reason)
  finish .unconnected

/-- Why no server can be reached with a connection string. -/
def unreachable (connectionString : String) : SqlMapper.Error :=
  match Endpoint.ofConnectionString connectionString with
  | .error e => .connectionString e
  | .ok _ => .connectFailed (.io "no network client")

def main (args : List String) : IO UInt32 := do
  match Arguments.read args with
  | .error fault => do
    IO.eprint fault.message
    finish (.ofFault fault)
  | .ok arguments =>
    match arguments.config with
    | .error e => refuse e.message
    | .ok config => refuse (unreachable config.connectionString).message
