import SqlMapper.Text.Split

/-!
# Field expressions

What may stand in a select list or an order: a column, all columns, a function of a column, or a column
with a direction. Only the column in an expression is quoted.

* `FieldExpr.ofText`: the shape of an expression.
* `FieldExpr.render`: the expression with its column quoted.
-/

namespace SqlMapper.Sql

/-- A field expression by its shape (`FieldShape`). -/
inductive FieldExpr where
  /-- All columns, or a count of rows: kept as it is. -/
  | wildcard (text : List Char)
  /-- A function of an argument. -/
  | call (function argument : List Char)
  /-- An expression with a direction. -/
  | ordered (expr direction : List Char)
  | plain (text : List Char)
deriving DecidableEq

namespace FieldExpr

/-- An expression with a direction at its end, or a plain one. -/
def ofDirection (text : List Char) : FieldExpr :=
  match Text.splitAtLast? ' ' text with
  | some (expr, direction) =>
    if direction = "DESC".toList ∨ direction = "ASC".toList then .ordered expr direction
    else .plain text
  | none => .plain text

/-- The shape of an expression (`classify_field`). A star at the end or in the first brackets makes it a
    wildcard. A call ends with the bracket that closes its argument, which holds no star and no other closing
    one. -/
def ofText (text : List Char) : FieldExpr :=
  if ['*'] <:+ text then .wildcard text
  else match Text.splitAtFirst '(' text with
    | (function, some rest) =>
      if ['*', ')'] <+: rest then .wildcard text
      else match Text.dropSuffix? [')'] rest with
        | some argument =>
          if '*' ∉ argument ∧ ')' ∉ argument then .call function argument else ofDirection text
        | none => ofDirection text
    | (_, none) => ofDirection text

/-- The expression with its column quoted. A call without an argument has nothing to quote. -/
def render (quote : List Char → List Char) : FieldExpr → List Char
  | wildcard text => text
  | call function argument =>
    function ++ '(' :: (if argument = [] then [] else quote argument) ++ [')']
  | ordered expr direction => quote expr ++ ' ' :: direction
  | plain text => quote text

end FieldExpr

end SqlMapper.Sql
