import SqlMapper.Proofs.Inflector.Names

/-!
# Names with namespaces

A type name may stand in namespaces, with double colons between; in snake case these are the steps of a path,
with slashes between. Either form is recovered from the other, however many words there are and wherever
digits stand in them: put into snake case, a word begins with an underscore if a letter or a digit stands
before it, and with none after a slash.

* `SnakeWord`: a word in snake case; `NameWord.lower` and `SnakeWord.capital` lead from the one kind of word
  to the other and back.
* `camelText`, `snakeText`: names and paths as texts.
* `underscore_camelText`, `camelize_snakeText`: from the one kind of text to the other.
* `camelize_underscore_inverse`: there and back.
-/

namespace SqlMapper

open English (AllSmall isSmall)

/-! ## Words -/

/-- A word in snake case: a lower case letter, then at least one lower case letter or digit. -/
structure SnakeWord where
  initial : Char
  rest : List Char
  initial_lower : initial.isLower = true
  rest_ne_nil : rest ≠ []
  rest_small : AllSmall rest

namespace SnakeWord

variable (w : SnakeWord)

def text : List Char := w.initial :: w.rest

/-- The word with a capital. -/
def capital : NameWord where
  initial := w.initial.toUpper
  rest := w.rest
  initial_upper := Text.isUpper_toUpper w.initial_lower
  rest_ne_nil := w.rest_ne_nil
  rest_small := w.rest_small

theorem small_text : AllSmall w.text := by
  refine List.forall_mem_cons.mpr ⟨?_, w.rest_small⟩
  rw [isSmall, w.initial_lower, Bool.true_or]

theorem text_ne_nil : w.text ≠ [] := List.cons_ne_nil _ _

theorem capitalize_text : Text.capitalize w.text = w.capital.text := by
  have hascii := English.ascii_of_isSmall (w.small_text w.initial List.mem_cons_self)
  rw [text, Text.capitalize, Text.toUpper_ascii hascii]
  rfl

end SnakeWord

/-- The word without its capital. -/
def NameWord.lower (w : NameWord) : SnakeWord where
  initial := w.initial.toLower
  rest := w.rest
  initial_lower := Text.isLower_toLower w.initial_upper
  rest_ne_nil := w.rest_ne_nil
  rest_small := w.rest_small

@[simp] theorem NameWord.text_lower (w : NameWord) : w.lower.text = w.noun := rfl

@[simp] theorem NameWord.capital_lower (w : NameWord) : w.lower.capital = w := by
  have hinitial : w.initial.toLower.toUpper = w.initial :=
    Text.toUpper_toLower w.initial_upper
  simp [lower, SnakeWord.capital, hinitial]

@[simp] theorem SnakeWord.lower_capital (w : SnakeWord) : w.capital.lower = w := by
  have hinitial : w.initial.toUpper.toLower = w.initial :=
    Text.toLower_toUpper (Text.not_isUpper_of_isLower w.initial_lower)
  simp [NameWord.lower, capital, hinitial]

/-! ## Names and paths -/

/-- A name: its words put together. -/
def camelName (words : List NameWord) : List Char := words.flatMap NameWord.text

/-- A name in snake case: its words with underscores between. -/
def snakeName (words : List SnakeWord) : List Char := Text.joinWith ['_'] (words.map SnakeWord.text)

/-- Names with double colons between. -/
def camelText (names : List (List NameWord)) : String :=
  String.ofList (Text.joinWith [':', ':'] (names.map camelName))

/-- Names in snake case with slashes between. -/
def snakeText (path : List (List SnakeWord)) : String :=
  String.ofList (Text.joinWith ['/'] (path.map snakeName))

/-! ## To snake case -/

/-- Double colons become slashes. -/
theorem pathChars_joinWith {names : List (List Char)} (h : ∀ name ∈ names, ':' ∉ name) :
    pathChars (Text.joinWith [':', ':'] names) = Text.joinWith ['/'] names := by
  have before_colons : ∀ {name : List Char} (rest : List Char), ':' ∉ name →
      pathChars (name ++ ':' :: ':' :: rest) = name ++ '/' :: pathChars rest := by
    intro name rest hname
    induction name with
    | nil => rfl
    | cons c name ih =>
      obtain ⟨hc, hname⟩ := not_or.mp (mt List.mem_cons.mpr hname)
      rw [List.cons_append, pathChars, ih hname]
      · rfl
      · rintro _ rfl
        exact absurd rfl hc
  induction names with
  | nil => rfl
  | cons name names ih =>
    obtain ⟨hname, hnames⟩ := List.forall_mem_cons.mp h
    cases names with
    | nil => exact pathChars_of_not_mem hname
    | cons next names =>
      have rest := ih hnames
      rw [Text.joinWith, List.append_assoc, List.cons_append, List.singleton_append,
        before_colons _ hname, rest, Text.joinWith, List.append_assoc, List.singleton_append]

section Name

variable {tail out : List Char} (htail : ∀ before, snakeAfter before tail = out)

include htail

/-- After a letter or a digit, every word has an underscore before it. -/
theorem snakeAfter_more_words (words : List NameWord) {c : Char} (hc : isSmall c = true) :
    snakeAfter (some c) (camelName words ++ tail) = words.flatMap (fun w => '_' :: w.noun) ++ out := by
  induction words generalizing c with
  | nil => exact htail (some c)
  | cons w words ih =>
    obtain ⟨last, hlast⟩ := Option.isSome_iff_exists.mp (List.getLast?_isSome.mpr w.rest_ne_nil)
    have rest := ih (w.isSmall_of_mem_getLast? last hlast)
    have small : (some c).any isSmall = true := hc
    rw [camelName] at rest
    rw [camelName, List.flatMap_cons, List.append_assoc,
      snakeAfter_text w (fun b hb => .inl (Option.some.inj hb ▸ hc)), small, hlast, rest]
    simp

/-- At the start of a text and after a slash, the first word has none. -/
theorem snakeAfter_camelName (words : List NameWord) {before : Option Char}
    (h : ∀ c ∈ before, c = '/') :
    snakeAfter before (camelName words ++ tail) = snakeName (words.map NameWord.lower) ++ out := by
  cases words with
  | nil => exact htail before
  | cons w words =>
    obtain ⟨last, hlast⟩ := Option.isSome_iff_exists.mp (List.getLast?_isSome.mpr w.rest_ne_nil)
    have rest := snakeAfter_more_words htail words (w.isSmall_of_mem_getLast? last hlast)
    have start : before.any isSmall = false := by
      cases before with
      | none => rfl
      | some c =>
        rw [h c rfl]
        rfl
    rw [camelName] at rest
    rw [camelName, List.flatMap_cons, List.append_assoc, snakeAfter_text w (fun c hc => .inr (h c hc)), start,
      hlast, rest, snakeName, List.map_cons, List.map_cons, Text.joinWith_cons]
    simp [List.flatMap_map]

end Name

/-- Names with slashes between are put into snake case one by one. -/
theorem snakeAfter_names (names : List (List NameWord)) {before : Option Char}
    (h : ∀ c ∈ before, c = '/') :
    snakeAfter before (Text.joinWith ['/'] (names.map camelName)) =
      Text.joinWith ['/'] (names.map fun words => snakeName (words.map NameWord.lower)) := by
  induction names generalizing before with
  | nil => rfl
  | cons words names ih =>
    cases names with
    | nil =>
      have nothing : ∀ before, snakeAfter before [] = [] := fun _ => rfl
      have alone := snakeAfter_camelName nothing words h
      rwa [List.append_nil, List.append_nil] at alone
    | cons next names =>
      have slash : ∀ c ∈ some '/', c = '/' := fun c hc => (Option.some.inj hc).symm
      have rest := ih slash
      have htail : ∀ before, snakeAfter before
          ('/' :: Text.joinWith ['/'] ((next :: names).map camelName)) =
            '/' :: snakeAfter (some '/') (Text.joinWith ['/'] ((next :: names).map camelName)) :=
        fun _ => rfl
      have first := snakeAfter_camelName htail words h
      rw [rest] at first
      simpa [Text.joinWith] using first

/-- A name with namespaces, in snake case. -/
theorem underscore_camelText (names : List (List NameWord)) :
    underscore (camelText names) = snakeText (names.map (List.map NameWord.lower)) := by
  have noColon : ∀ name ∈ names.map camelName, ':' ∉ name := by
    intro name hname
    obtain ⟨words, -, rfl⟩ := List.mem_map.mp hname
    rw [camelName, List.mem_flatMap]
    rintro ⟨w, -, hw⟩
    exact w.not_mem_text (by decide) hw
  rw [underscore, camelText, String.toList_ofList, snakeChars, pathChars_joinWith noColon,
    snakeAfter_names names (by simp), snakeText, List.map_map]
  rfl

/-! ## To camel case -/

theorem not_mem_snakeName {c : Char} (hc : isSmall c = false) (hne : c ≠ '_') (words : List SnakeWord) :
    c ∉ snakeName words := by
  intro h
  rcases Text.mem_joinWith h with h | ⟨part, hpart, hmem⟩
  · exact hne h
  · obtain ⟨w, -, rfl⟩ := List.mem_map.mp hpart
    exact English.not_mem_of_small w.small_text hc hmem

/-- The words of a name are put together with capitals. -/
theorem camelSegment_snakeName (words : List SnakeWord) :
    camelSegment (snakeName words) = camelName (words.map SnakeWord.capital) := by
  by_cases hnil : words = []
  · rw [hnil]
    rfl
  · have parts : Text.splitOn '_' (snakeName words) = words.map SnakeWord.text := by
      refine Text.splitOn_joinWith (by simpa using hnil) ?_
      intro part hpart
      obtain ⟨w, -, rfl⟩ := List.mem_map.mp hpart
      exact English.not_mem_of_small w.small_text (by decide)
    have kept : (words.map SnakeWord.text).filter (· ≠ []) = words.map SnakeWord.text := by
      rw [List.filter_eq_self]
      intro part hpart
      obtain ⟨w, -, rfl⟩ := List.mem_map.mp hpart
      exact decide_eq_true w.text_ne_nil
    rw [camelSegment, parts, kept, camelName, List.flatMap_map, List.flatMap_map]
    exact List.flatMap_congr fun w _ => w.capitalize_text

/-- A path of names in snake case, with capitals. -/
theorem camelize_snakeText (path : List (List SnakeWord)) :
    camelize (snakeText path) = camelText (path.map (List.map SnakeWord.capital)) := by
  by_cases hnil : path = []
  · rw [hnil]
    rfl
  · have parts : Text.splitOn '/' (Text.joinWith ['/'] (path.map snakeName)) = path.map snakeName := by
      refine Text.splitOn_joinWith (by simpa using hnil) ?_
      intro part hpart
      obtain ⟨words, -, rfl⟩ := List.mem_map.mp hpart
      exact not_mem_snakeName (by decide) (by decide) words
    rw [camelize, snakeText, String.toList_ofList, camelChars, parts, camelText, List.map_map, List.map_map]
    congr 2
    exact List.map_congr_left fun words _ => camelSegment_snakeName words

/-! ## There and back -/

/-- **Camel case and snake case are inverse.** A name of capitalised words, in any number of namespaces, is
    found again from its snake case form; and a path of names in snake case is found again from its camel
    case form. -/
theorem camelize_underscore_inverse :
    (∀ names : List (List NameWord), camelize (underscore (camelText names)) = camelText names) ∧
      ∀ path : List (List SnakeWord), underscore (camelize (snakeText path)) = snakeText path := by
  constructor
  · intro names
    rw [underscore_camelText, camelize_snakeText, List.map_map]
    simp [Function.comp_def]
  · intro path
    rw [camelize_snakeText, underscore_camelText, List.map_map]
    simp [Function.comp_def]

end SqlMapper
