import SqlMapper.Inflector.English

/-!
# Names of types and tables

A table has a plural name in snake case (`blog_posts`), an entity type a singular one in camel case
(`BlogPost`). An inflector supplies plurals and singulars; the rest follows from them.

* `camelize`, `underscore`: between snake case and camel case.
* `Inflector.classify`: the type name for a table name.
* `Inflector.tableize`: the table name for a type name.
-/

namespace SqlMapper

/-! ## Snake case and camel case -/

/-- One path segment in camel case: its words capitalised and put together. -/
def camelSegment (segment : List Char) : List Char :=
  ((Text.splitOn '_' segment).filter (· ≠ [])).flatMap Text.capitalize

/-- A path of snake case names as a camel case name: slashes become double colons. -/
def camelChars (word : List Char) : List Char :=
  Text.joinWith [':', ':'] ((Text.splitOn '/' word).map camelSegment)

/-- Double colons as slashes. -/
def pathChars : List Char → List Char
  | ':' :: ':' :: rest => '/' :: pathChars rest
  | c :: rest => c :: pathChars rest
  | [] => []

/-- Whether a new word starts at the upper case letter between `before` and `next`: after a lower case
    letter or a digit, or where a run of capitals ends. -/
def startsWord (before : Char) (next : Option Char) : Bool :=
  Text.isLower before || before.isDigit ||
    (Text.isUpper before && (next.map Text.isLower).getD false)

/-- The snake case form of a text that comes after the character `before`. -/
def snakeAfter (before : Option Char) : List Char → List Char
  | [] => []
  | c :: rest =>
    let opens := Text.isUpper c && (before.map (startsWord · rest.head?)).getD false
    (if opens then ['_'] else []) ++ (if c = '-' then ['_'] else Text.toLower c) ++
      snakeAfter (some c) rest

/-- The snake case form of a camel case name. -/
def snakeChars (word : List Char) : List Char := snakeAfter none (pathChars word)

/-- `blog_post` as `BlogPost` (`Inflector.camelize`). -/
def camelize (word : String) : String := String.ofList (camelChars word.toList)

/-- `BlogPost` as `blog_post` (`Inflector.underscore`). -/
def underscore (word : String) : String := String.ofList (snakeChars word.toList)

/-! ## Inflectors -/

/-- How the plural and the singular of a word are formed. -/
structure Inflector where
  pluralize : String → String
  singularize : String → String

namespace Inflector

/-- English nouns (`EnglishInflector`). -/
def english : Inflector :=
  ⟨fun w => String.ofList (English.pluralize w.toList),
   fun w => String.ofList (English.singularize w.toList)⟩

/-- Plural and singular are the word itself. -/
def identity : Inflector := ⟨id, id⟩

/-- A table name without the schema before it. -/
def unqualified (table : String) : String :=
  match Text.splitAtLast? '.' table.toList with
  | some (_, name) => String.ofList name
  | none => table

/-- The type name for a table name: `blog_posts` as `BlogPost`. -/
def classify (i : Inflector) (table : String) : String :=
  camelize (i.singularize (unqualified table))

/-- The table name for a type name: `BlogPost` as `blog_posts`. -/
def tableize (i : Inflector) (typeName : String) : String := i.pluralize (underscore typeName)

end Inflector

end SqlMapper
