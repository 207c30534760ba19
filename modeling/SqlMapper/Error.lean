import SqlMapper.Text.Quoted

/-!
# Errors

What can go wrong between a program and the database, by cause, and the wording of each.

* `Error.message`: the text of an error.
* `Error.suggestion?`, `Error.isRetryable`: what a caller may do about it.
-/

namespace SqlMapper

/-- An error of the library or of the database behind it (`DbError`). -/
inductive Error where
  /-- No connection could be had. -/
  | connection (cause suggestion : String)
  /-- The server refused a statement. -/
  | database (cause : String) (sqlState : Option String) (suggestion : String)
  /-- A column's value does not have the form of the column's type. -/
  | coercion (column : String) (typeCode : UInt8) (raw cause : String)
  /-- A table or an entity type is not what it should be. -/
  | schema (cause object : String)
  /-- An operation took too long. -/
  | timeout (operation : String) (seconds : UInt32)
  /-- The caller asked for something that cannot be done. -/
  | invalidInput (cause : String)
  /-- The library and the database do not agree. -/
  | internal (cause : String)
deriving DecidableEq

namespace Error

/-- The text of an error. -/
def message : Error → String
  | connection cause _ => "Connection failed: " ++ cause
  | database cause _ _ => "Database error: " ++ cause
  | coercion column typeCode raw cause =>
    "Cannot coerce column " ++ column ++ " (type " ++ Nat.repr typeCode.toNat ++ ") value " ++
      Text.quoted raw ++ ": " ++ cause
  | schema cause object => "Schema error: " ++ cause ++ " (object: " ++ object ++ ")"
  | timeout operation seconds =>
    "Timeout: " ++ operation ++ " exceeded " ++ Nat.repr seconds.toNat ++ "s"
  | invalidInput cause => "Invalid input: " ++ cause
  | internal cause => "Internal error: " ++ cause

/-- What the user may do about it (`DbError.suggestion`). -/
def suggestion? : Error → Option String
  | connection _ suggestion => some suggestion
  | database _ _ suggestion => some suggestion
  | _ => none

/-- The server's code for the error. -/
def sqlState? : Error → Option String
  | database _ sqlState _ => sqlState
  | _ => none

/-- Whether the same call may succeed later (`DbError.is_retryable`). -/
def isRetryable : Error → Bool
  | connection _ _ => true
  | timeout _ _ => true
  | _ => false

/-! ## Errors that the library raises itself -/

/-- A row does not have as many values as the result has columns. -/
def rowWidth (values columns : Nat) : Error :=
  .internal ("Row has " ++ Nat.repr values ++ " values but the result has " ++ Nat.repr columns ++
    " columns")

/-- An instance is saved a second time. -/
def alreadySaved (entity : String) : Error :=
  .invalidInput (entity ++ " instance is already saved")

/-- A name leads to no registered entity type. -/
def unknownEntity (typeName reference : String) : Error :=
  .schema ("No entity type named '" ++ typeName ++ "' is registered") reference

end Error

end SqlMapper
