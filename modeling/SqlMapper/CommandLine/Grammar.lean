/-!
# The grammar of a command line

A level of a command line has switches, positional arguments and commands; a command starts a level of
its own with what follows it. A value may be attached to its switch or come next. After two dashes
everything is positional.

A value is taken up only when the next argument has been recognised, so a fault in it is found after a
fault in what the next argument is.

* `Level.read`: the arguments of a level, and the command that ends it.
-/

namespace SqlMapper.CommandLine

/-- What is wrong with a command line, or why nothing else is done. -/
inductive Fault where
  | unknownArgument
  | argumentConflict
  | invalidValue
  | tooManyValues
  | missingArgument
  | missingCommand
  | unknownCommand
  | noArguments
  /-- Help is asked for: for a command, or for the whole, in full or in brief. -/
  | help (command? : Option String) (full : Bool)
  | version
deriving DecidableEq, Repr

/-- What a switch does. -/
inductive SwitchKind where
  | flag
  | value
  | help
  | version
deriving DecidableEq

/-- A switch with a long name and perhaps a short one. -/
structure Switch where
  long : String
  short? : Option Char
  kind : SwitchKind
deriving DecidableEq

/-- A level of a command line. -/
structure Level where
  /-- The command that starts it, if it is not the outermost one. -/
  command? : Option String
  switches : List Switch
  /-- The positional arguments, each with its choices if it has not any text. -/
  positionals : List (Option (List String))
  commands : List String

/-- An argument that has not been taken up: a switch that may lack its value, or a positional one. -/
inductive Pending where
  | switch (long : String) (value? : Option String)
  | positional (choices? : Option (List String)) (value : String)
deriving DecidableEq

/-- What has been read of a level. -/
structure Progress where
  /-- Switches given, with their values; a flag has an empty one. -/
  given : List (String × String)
  positionals : List String
  pending? : Option Pending
deriving DecidableEq

namespace Progress

/-- Nothing has been read. -/
def start : Progress := ⟨[], [], none⟩

/-- Takes up a switch; none may be given twice. -/
def give (p : Progress) (long value : String) : Except Fault Progress :=
  if (p.given.lookup long).isSome then .error .argumentConflict
  else .ok { p with given := p.given ++ [(long, value)] }

/-- Takes up the argument that is pending. -/
def settle (p : Progress) : Except Fault Progress :=
  match p.pending? with
  | none => .ok p
  | some (.switch _ none) => .error .invalidValue
  | some (.switch long (some value)) => { p with pending? := none }.give long value
  | some (.positional choices? value) =>
    if (choices?.map (·.contains value)).getD true then
      .ok { p with positionals := p.positionals ++ [value], pending? := none }
    else .error .invalidValue

/-- Whether a switch waits for its value. -/
def awaits (p : Progress) : Bool :=
  match p.pending? with
  | some (.switch _ none) => true
  | _ => false

/-- The value for the switch that waits. -/
def fill (p : Progress) (value : String) : Progress :=
  match p.pending? with
  | some (.switch long _) => { p with pending? := some (.switch long (some value)) }
  | _ => p

/-- The number of positional arguments, with one that is pending. -/
def positionalCount (p : Progress) : Nat :=
  p.positionals.length +
    match p.pending? with
    | some (.positional _ _) => 1
    | _ => 0

def value? (p : Progress) (long : String) : Option String := p.given.lookup long

def flag (p : Progress) (long : String) : Bool := (p.given.lookup long).isSome

end Progress

/-! ## Arguments -/

/-- The name after two dashes, and what follows an equals sign. -/
def long? (arg : String) : Option (String × Option String) :=
  match arg.toList with
  | '-' :: '-' :: c :: rest =>
    let body := c :: rest
    let value := (body.dropWhile (· != '=')).tail?
    some (String.ofList (body.takeWhile (· != '=')), value.map String.ofList)
  | _ => none

/-- The letters after a single dash. -/
def shorts? (arg : String) : Option (List Char) :=
  match arg.toList with
  | '-' :: c :: rest => if c = '-' then none else some (c :: rest)
  | _ => none

namespace Level

variable (l : Level)

/-- A switch that is given with or without an attached value. -/
def meet (p : Progress) (s : Switch) (attached? : Option String) : Except Fault Progress := do
  match s.kind, attached? with
  | .value, some value => (← p.settle).give s.long value
  | .value, none => return { ← p.settle with pending? := some (.switch s.long none) }
  | _, some _ => throw .tooManyValues
  | .flag, none => (← p.settle).give s.long ""
  | .help, none => do
    let _ ← p.settle
    throw (.help l.command? true)
  | .version, none => do
    let _ ← p.settle
    throw .version

/-- Letters after a single dash: flags, and perhaps a switch whose value takes up the rest. -/
def meetShorts (p : Progress) : List Char → Except Fault Progress
  | [] => .ok p
  | c :: rest =>
    match l.switches.find? (·.short? = some c) with
    | none => .error .unknownArgument
    | some s =>
      match s.kind with
      | .value =>
        let attached? := match rest with
          | [] => none
          | '=' :: value => some (String.ofList value)
          | value => some (String.ofList value)
        l.meet p s attached?
      | .help => do
        let _ ← p.settle
        throw (.help l.command? false)
      | _ => do meetShorts (← l.meet p s none) rest

/-- A positional argument. -/
def meetPositional (trailing : Bool) (p : Progress) (arg : String) : Except Fault Progress :=
  match l.positionals[p.positionalCount]? with
  | some choices? => do return { ← p.settle with pending? := some (.positional choices? arg) }
  | none =>
    if l.commands ≠ [] ∧ !(trailing && l.commands.contains arg) then .error .unknownCommand
    else .error .unknownArgument

/-- Reads arguments up to the end or to a command; the answer has the command and what follows it. -/
def read (trailing : Bool) (p : Progress) :
    List String → Except Fault (Progress × Option (String × List String))
  | [] => .ok (p, none)
  | arg :: rest =>
    if trailing then do read trailing (← l.meetPositional trailing p arg) rest
    else if !p.awaits && l.commands.contains arg then .ok (p, some (arg, rest))
    else if arg = "--" then read true p rest
    else match long? arg with
      | some (name, attached?) =>
        match l.switches.find? (·.long = name) with
        | some s => do read trailing (← l.meet p s attached?) rest
        | none => .error .unknownArgument
      | none =>
        match shorts? arg with
        | some letters => do read trailing (← l.meetShorts p letters) rest
        | none =>
          if p.awaits then read trailing (p.fill arg) rest
          else do read trailing (← l.meetPositional trailing p arg) rest

end Level

end SqlMapper.CommandLine
