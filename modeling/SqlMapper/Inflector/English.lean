import SqlMapper.Text.Case
import SqlMapper.Text.Split

/-!
# Number of English nouns

Plurals and singulars of English nouns: regular endings, a list of irregular nouns and a list of those
without a plural. Only the last segment of a snake case word is inflected, in lower case; the segments
before it stay as they are.

* `English.pluralize`, `English.singularize`: the two inflections of a word.
* `English.pluralNoun`, `English.singularNoun`: the regular ones, by the first rule that applies.
-/

namespace SqlMapper.English

/-! ## Vocabulary -/

/-- Nouns that are their own plural (`UNCOUNTABLE`). -/
def uncountable : List (List Char) :=
  ["equipment", "information", "rice", "money", "species", "series", "fish", "sheep", "jeans", "news",
   "police"].map String.toList

/-- Irregular nouns: singular and plural (`IRREGULAR`). -/
def irregular : List (List Char × List Char) :=
  [("person", "people"), ("man", "men"), ("woman", "women"), ("child", "children"),
   ("sex", "sexes"), ("move", "moves"), ("ox", "oxen"), ("mouse", "mice"), ("louse", "lice"),
   ("quiz", "quizzes"), ("foot", "feet"), ("tooth", "teeth"), ("goose", "geese")].map
    fun (s, p) => (s.toList, p.toList)

/-- The irregular noun that a word is the singular or the plural of. -/
def irregular? (noun : List Char) : Option (List Char × List Char) :=
  irregular.find? fun (s, p) => s == noun || p == noun

/-! ## Rules -/

/-- A rule gives the inflected noun if it applies. -/
abbrev Rule := List Char → Option (List Char)

/-- Whether a text has one of the endings. -/
def hasEnding (endings : List String) (s : List Char) : Bool :=
  endings.any fun e => decide (e.toList <:+ s)

/-- Puts `new` for `ending` where the stem before it is fit. -/
def replacing (ending new : String) (fit : List Char → Bool) : Rule := fun noun =>
  match Text.dropSuffix? ending.toList noun with
  | some stem => if fit stem then some (stem ++ new.toList) else none
  | none => none

/-- Adds `added` to a noun with one of the endings. -/
def adding (added : String) (endings : List String) : Rule := fun noun =>
  if hasEnding endings noun then some (noun ++ added.toList) else none

/-- Takes `n` characters off a noun with one of the endings. -/
def dropping (n : Nat) (endings : List String) : Rule := fun noun =>
  if hasEnding endings noun then some (noun.take (noun.length - n)) else none

/-- The noun inflected by the first rule that applies. -/
def firstApplying (rules : List Rule) (noun : List Char) : Option (List Char) :=
  rules.findSome? fun r => r noun

def isVowel (c : Char) : Bool := ['a', 'e', 'i', 'o', 'u'].contains c

/-- Whether a stem ends in a consonant, with `qu` as one (`ends_in_consonant`). -/
def endsInConsonant (stem : List Char) : Bool :=
  hasEnding ["qu"] stem || (stem.getLast?.map fun c => !isVowel c && c != 'y').getD false

/-- Every stem is fit. -/
def anyStem (_ : List Char) : Bool := true

/-! ## Plurals -/

/-- The rules for plurals, in the order in which they are tried. -/
def pluralRules : List Rule :=
  [replacing "ix" "ices" (hasEnding ["matr"]),
   replacing "ex" "ices" (hasEnding ["vert"]),
   replacing "ex" "ices" (hasEnding ["ind"]),
   replacing "sis" "ses" anyStem,
   adding "es" ["x", "ch", "ss", "sh"],
   replacing "y" "ies" endsInConsonant,
   adding "s" ["hive"],
   replacing "fe" "ves" (fun stem => !hasEnding ["f"] stem),
   replacing "f" "ves" (hasEnding ["l", "r"]),
   replacing "um" "a" (hasEnding ["t", "i"]),
   adding "es" ["buffalo", "tomato", "potato", "hero"],
   adding "es" ["bus", "alias", "status"],
   replacing "us" "i" (hasEnding ["octop", "vir"]),
   replacing "is" "es" (hasEnding ["ax", "test"])]

/-- The regular plural of a noun in lower case (`pluralize_word`). -/
def pluralNoun (noun : List Char) : List Char :=
  (firstApplying pluralRules noun).getD (noun ++ ['s'])

/-! ## Singulars -/

/-- A noun with one of these endings is a singular, and its plural adds two letters. -/
def sibilant (ending : String) : Rule := fun noun =>
  if hasEnding [ending] noun then some noun else replacing "es" "" (hasEnding [ending]) noun

/-- The rules for singulars, in the order in which they are tried. -/
def singularRules : List Rule :=
  [sibilant "alias", sibilant "status", sibilant "bus",
   replacing "i" "us" (hasEnding ["octop", "vir"]),
   replacing "ices" "ix" (hasEnding ["matr"]),
   replacing "ices" "ex" (hasEnding ["vert"]),
   replacing "ices" "ex" (hasEnding ["ind"]),
   replacing "es" "is" (hasEnding ["cris", "ax", "test"]),
   dropping 0 ["sis"],
   replacing "ses" "sis"
     (hasEnding ["analy", "ba", "diagno", "parenthe", "progno", "synop", "the"]),
   dropping 1 ["shoes"],
   dropping 2 ["buffaloes", "tomatoes", "potatoes", "heroes"],
   dropping 2 ["xes", "ches", "sses", "shes"],
   dropping 1 ["movies"],
   replacing "ies" "y" endsInConsonant,
   dropping 1 ["hives", "tives"],
   replacing "ves" "f" (hasEnding ["l", "r"]),
   replacing "ves" "fe" (fun stem => !hasEnding ["f"] stem),
   replacing "a" "um" (hasEnding ["t", "i"]),
   dropping 0 ["ss", "us"],
   replacing "s" "" (fun stem => !stem.isEmpty)]

/-- The regular singular of a noun in lower case (`singularize_word`). -/
def singularNoun (noun : List Char) : List Char := (firstApplying singularRules noun).getD noun

/-! ## Words -/

/-- The segments before the last underscore, with it, and the last segment in lower case
    (`split_last_word`). -/
def splitWord (word : List Char) : List Char × List Char :=
  match Text.splitAtLast? '_' word with
  | some (front, last) => (front ++ ['_'], Text.lowercase last)
  | none => ([], Text.lowercase word)

/-- The plural of a word (`EnglishInflector.pluralize`). A word that is a plural already stays as it is. -/
def pluralize (word : List Char) : List Char :=
  let (front, last) := splitWord word
  if last = [] ∨ last ∈ uncountable then word
  else match irregular? last with
    | some (_, plural) => front ++ plural
    | none =>
      let singular := singularNoun last
      if singular ≠ last ∧ pluralNoun singular = last then word else front ++ pluralNoun last

/-- The singular of a word (`EnglishInflector.singularize`). -/
def singularize (word : List Char) : List Char :=
  let (front, last) := splitWord word
  if last = [] ∨ last ∈ uncountable then word
  else match irregular? last with
    | some (singular, _) => front ++ singular
    | none => front ++ singularNoun last

end SqlMapper.English
