import SqlMapper.Inflector.Basic
import SqlMapper.Proofs.Inflector.English
import SqlMapper.Proofs.Text.Split

/-!
# Names made of words

A type name is a sequence of capitalised words, and its snake case form has the same words in lower case
with underscores between. Either form is recovered from the other.

* `NameWord`, `TypeName`: words and names with their well-formedness.
* `underscore_text`: the snake case form of a type name.
* `camelize_eq_text_iff`: which texts in snake case are in camel case a given type name.
-/

namespace SqlMapper

open English (AllSmall isSmall IsFront)

/-! ## Words and names -/

/-- A capitalised word: an upper case letter, then at least one lower case letter or digit. -/
structure NameWord where
  initial : Char
  rest : List Char
  initial_upper : initial.isUpper = true
  rest_ne_nil : rest ≠ []
  rest_small : AllSmall rest

namespace NameWord

variable (w : NameWord)

def text : List Char := w.initial :: w.rest

/-- The word in lower case. -/
def noun : List Char := w.initial.toLower :: w.rest

end NameWord

/-- A type name of one or more words. -/
structure TypeName where
  front : List NameWord
  last : NameWord

namespace TypeName

variable (n : TypeName)

def text : String := String.ofList (n.front.flatMap NameWord.text ++ n.last.text)

/-- The words before the last one in lower case, with an underscore after each. -/
def snakeFront : List Char := n.front.flatMap fun w => w.noun ++ ['_']

end TypeName

/-! ## Letters of words -/

namespace NameWord

variable (w : NameWord)

theorem text_ne_nil : w.text ≠ [] := List.cons_ne_nil _ _

theorem noun_ne_nil : w.noun ≠ [] := List.cons_ne_nil _ _

theorem toNat_initial : 65 ≤ w.initial.toNat ∧ w.initial.toNat ≤ 90 := by
  exact Text.isUpper_iff_toNat.mp w.initial_upper

theorem isSmall_initial : isSmall w.initial.toLower = true := by
  rw [isSmall, Text.isLower_toLower w.initial_upper, Bool.true_or]

theorem small_noun : AllSmall w.noun := List.forall_mem_cons.mpr ⟨w.isSmall_initial, w.rest_small⟩

theorem isSmall_of_mem_getLast? : ∀ c ∈ w.rest.getLast?, isSmall c = true :=
  fun c hc => w.rest_small c (List.mem_of_getLast? hc)

theorem capitalize_noun : Text.capitalize w.noun = w.text := by
  rw [noun, Text.capitalize, Text.toUpper_ascii (English.ascii_of_isSmall w.isSmall_initial),
    Text.toUpper_toLower w.initial_upper]
  rfl

/-- A word has letters and digits only. -/
theorem not_mem_text {c : Char} (hc : c.isAlphanum = false) : c ∉ w.text := by
  intro h
  rcases List.mem_cons.mp h with rfl | h
  · simp [Char.isAlphanum, Text.isAlpha_eq, w.initial_upper] at hc
  · have hsmall := w.rest_small c h
    simp only [Char.isAlphanum, Text.isAlpha_eq, Bool.or_eq_false_iff] at hc
    simp [isSmall, hc] at hsmall

end NameWord

/-- Capitalised words differ where the words do. -/
theorem capitalize_inj {v w : List Char} (hv : AllSmall v) (hw : AllSmall w) :
    Text.capitalize v = Text.capitalize w ↔ v = w := by
  have recover : ∀ {v}, AllSmall v → (Text.capitalize v).map Char.toLower = v := by
    intro v hv
    cases v with
    | nil => rfl
    | cons c rest =>
      have hascii := English.ascii_of_isSmall (hv c List.mem_cons_self)
      rw [Text.capitalize, Text.toUpper_ascii hascii, List.singleton_append, List.map_cons,
        Text.toLower_toUpper (English.not_isUpper_of_isSmall (hv c List.mem_cons_self)),
        English.map_toLower_of_small fun d hd => hv d (List.mem_cons_of_mem c hd)]
  exact ⟨fun h => by rw [← recover hv, h, recover hw], fun h => h ▸ rfl⟩

namespace TypeName

variable (n : TypeName) {x : List Char} {c : Char}

theorem not_mem_text (hc : c.isAlphanum = false) : c ∉ n.text.toList := by
  simp only [text, String.toList_ofList, List.mem_append, List.mem_flatMap, not_or, not_exists, not_and]
  exact ⟨fun w _ => w.not_mem_text hc, n.last.not_mem_text hc⟩

theorem not_mem_snake (hx : AllSmall x) (hc : isSmall c = false) (hne : c ≠ '_') :
    c ∉ n.snakeFront ++ x := by
  simp only [snakeFront, List.mem_append, List.mem_flatMap, List.mem_singleton, hne, or_false, not_or,
    not_exists, not_and]
  exact ⟨fun w _ => English.not_mem_of_small w.small_noun hc, English.not_mem_of_small hx hc⟩

end TypeName

/-! ## Snake case -/

theorem pathChars_of_not_mem {s : List Char} (h : ':' ∉ s) : pathChars s = s := by
  induction s using pathChars.induct with
  | case1 rest ih => simp at h
  | case2 c rest hpath ih =>
    rw [pathChars, ih fun hmem => h (List.mem_cons_of_mem c hmem)]
    exact hpath
  | case3 => rfl

/-- Small letters stay as they are. -/
theorem snakeAfter_small {s : List Char} (h : AllSmall s) (before : Option Char) (tail : List Char) :
    snakeAfter before (s ++ tail) = s ++ snakeAfter (s.getLast?.or before) tail := by
  induction s generalizing before with
  | nil => rfl
  | cons c s ih =>
    obtain ⟨hc, hs⟩ := List.forall_mem_cons.mp h
    have hascii := English.ascii_of_isSmall hc
    have hupper : Text.isUpper c = false := by
      rw [Text.isUpper_ascii hascii]
      exact Bool.eq_false_iff.mpr (English.not_isUpper_of_isSmall hc)
    have hdash : c ≠ '-' := by
      rintro rfl
      exact absurd hc (by decide)
    simp [snakeAfter, hupper, hdash, Text.toLower_ascii hascii, ih hs, List.getLast?_cons,
      Text.toLower_of_not_isUpper (English.not_isUpper_of_isSmall hc)]

/-- A word begins with an underscore if a letter or a digit stands before it, and with none after a
    slash. -/
theorem snakeAfter_text (w : NameWord) {before : Option Char}
    (h : ∀ c ∈ before, isSmall c = true ∨ c = '/') (tail : List Char) :
    snakeAfter before (w.text ++ tail) =
      (if before.any isSmall then ['_'] else []) ++ w.noun ++ snakeAfter w.rest.getLast? tail := by
  have hnat := w.toNat_initial
  have hascii : w.initial.toNat < 128 := by omega
  have hdash : w.initial ≠ '-' := by
    intro heq
    rw [heq] at hnat
    exact absurd hnat (by decide)
  have hopens : ∀ next, (before.map (startsWord · next)).getD false = before.any isSmall := by
    intro next
    cases before with
    | none => rfl
    | some b =>
      rcases h b rfl with hb | rfl
      · have hascii := English.ascii_of_isSmall hb
        rw [isSmall, Bool.or_eq_true] at hb
        rcases hb with hb | hb <;> simp [startsWord, isSmall, Text.isLower_ascii hascii, hb]
      · rfl
  rw [NameWord.text, List.cons_append, snakeAfter, hopens, Text.isUpper_ascii hascii, w.initial_upper,
    if_neg hdash, Text.toLower_ascii hascii, snakeAfter_small w.rest_small]
  obtain ⟨c, hlast⟩ := Option.isSome_iff_exists.mp (List.getLast?_isSome.mpr w.rest_ne_nil)
  simp [NameWord.noun, hlast]

namespace NameWord

/-- A word ends with a letter or a digit. -/
theorem any_getLast? (w : NameWord) : w.rest.getLast?.any isSmall = true := by
  obtain ⟨c, hlast⟩ := Option.isSome_iff_exists.mp (List.getLast?_isSome.mpr w.rest_ne_nil)
  rw [hlast]
  exact w.isSmall_of_mem_getLast? c hlast

end NameWord

namespace TypeName

variable (n : TypeName)

/-- After a word, every further word has an underscore before it. -/
theorem snakeAfter_words (front : List NameWord) (last : NameWord) {before : Option Char}
    (h : ∀ c ∈ before, isSmall c = true ∨ c = '/') :
    snakeAfter before (front.flatMap NameWord.text ++ last.text) =
      (if before.any isSmall then ['_'] else []) ++
        (front.flatMap (fun w => w.noun ++ ['_']) ++ last.noun) := by
  induction front generalizing before with
  | nil => simpa [snakeAfter] using snakeAfter_text last h []
  | cons w front ih =>
    rw [List.flatMap_cons, List.append_assoc, snakeAfter_text w h,
      ih fun c hc => .inl (w.isSmall_of_mem_getLast? c hc), w.any_getLast?]
    simp

theorem underscore_text : underscore n.text = String.ofList (n.snakeFront ++ n.last.noun) := by
  have hsnake : snakeAfter none (n.front.flatMap NameWord.text ++ n.last.text) =
      n.snakeFront ++ n.last.noun := snakeAfter_words n.front n.last (by simp)
  rw [underscore, snakeChars, pathChars_of_not_mem (n.not_mem_text (by decide)), text,
    String.toList_ofList, hsnake]

end TypeName

/-! ## Camel case -/

/-- A capitalised word is in camel case. -/
theorem NameWord.camelize_text (w : NameWord) :
    camelize (String.ofList w.text) = String.ofList w.text := by
  have hcapital : Text.capitalize w.text = w.text := by
    have hascii : w.initial.toNat < 128 := by
      have := w.toNat_initial
      omega
    rw [text, Text.capitalize, Text.toUpper_ascii hascii,
      Text.toUpper_of_not_isLower fun hlower => Text.not_isUpper_of_isLower hlower w.initial_upper]
    rfl
  rw [camelize, String.toList_ofList, camelChars, Text.splitOn_of_not_mem (w.not_mem_text (by decide)),
    List.map_singleton, camelSegment, Text.splitOn_of_not_mem (w.not_mem_text (by decide)),
    List.filter_cons_of_pos (by simpa using w.text_ne_nil), List.flatMap_cons, hcapital]
  simp [Text.joinWith]

namespace TypeName

variable (n : TypeName) {x : List Char}

theorem camelSegment_words (front : List NameWord) (hx : AllSmall x) :
    camelSegment (front.flatMap (fun w => w.noun ++ ['_']) ++ x) =
      front.flatMap NameWord.text ++ Text.capitalize x := by
  induction front with
  | nil =>
    rw [List.flatMap_nil, List.nil_append, camelSegment,
      Text.splitOn_of_not_mem (English.not_mem_of_small hx (by decide))]
    cases x <;> simp [Text.capitalize]
  | cons w front ih =>
    have hsep := English.not_mem_of_small w.small_noun (c := '_') (by decide)
    rw [camelSegment] at ih
    rw [camelSegment, List.flatMap_cons, List.append_assoc, List.append_assoc, List.singleton_append,
      Text.splitOn_append hsep, List.filter_cons_of_pos (by simpa using w.noun_ne_nil), List.flatMap_cons, ih,
      w.capitalize_noun, List.flatMap_cons, List.append_assoc]

/-- A text in snake case is a given type name in camel case if its last word is. -/
theorem camelize_eq_text_iff (hx : AllSmall x) :
    camelize (String.ofList (n.snakeFront ++ x)) = n.text ↔ x = n.last.noun := by
  have hcamel : camelChars (n.snakeFront ++ x) =
      n.front.flatMap NameWord.text ++ Text.capitalize x := by
    rw [camelChars, Text.splitOn_of_not_mem (n.not_mem_snake hx (by decide) (by decide))]
    exact camelSegment_words n.front hx
  rw [camelize, String.toList_ofList, hcamel, text, String.ofList_inj, List.append_cancel_left_eq,
    ← n.last.capitalize_noun, capitalize_inj hx n.last.small_noun]

end TypeName

end SqlMapper
