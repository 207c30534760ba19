import SqlMapper.Inflector.Basic
import SqlMapper.Proofs.Inflector.English
import SqlMapper.Proofs.Inflector.Singulars

/-!
# Words inflected twice

Which words have a plural that is left alone, a singular that is left alone, and a plural that leads back.
All is decided by the last segment of the word, in lower case, and there by a few of its last letters.

* `Inflector.pluralize_pluralize_eq_iff`: the words whose plural is its own plural.
* `Inflector.singularize_singularize_eq_iff`: the words whose singular is its own singular.
* `Inflector.singularize_pluralize_eq_iff`: the singulars in lower case that their plurals lead back to.
-/

namespace SqlMapper

namespace English

/-! ## Specification -/

/-- Whether the plural of a noun is the noun itself. -/
def isPlural (noun : List Char) : Bool :=
  noun.isEmpty || uncountable.contains noun ||
    match irregular? noun with
    | some (_, plural) => noun == plural
    | none => staysPlural noun

/-- Irregular plurals with an `s` after them. -/
def doubledPlurals : List (List Char) :=
  ["peoples", "mens", "womens", "childrens", "oxens", "mices", "lices", "feets", "teeths",
   "geeses"].map String.toList

/-- Whether the singular of a noun is a singular. -/
def singularRepeats (noun : List Char) : Bool :=
  !doubledPlurals.contains noun && singularSettles noun

variable {noun : List Char}

/-! ## Listed nouns -/

theorem isPlural_of_regular (hne : noun ≠ []) (h : ¬Listed noun) : isPlural noun = staysPlural noun := by
  obtain ⟨hmem, hsome⟩ := not_or.mp h
  rw [Option.not_isSome_iff_eq_none] at hsome
  simp [isPlural, hne, hmem, hsome]

theorem isSingular_of_regular (h : ¬Listed noun) : isSingular noun = staysSingular noun := by
  obtain ⟨hmem, hsome⟩ := not_or.mp h
  rw [Option.not_isSome_iff_eq_none] at hsome
  simp [isSingular, hmem, hsome]

/-! ## Nouns that are plurals -/

/-- The last letters of plurals that the rules make. -/
def markEndings : List String := ["s", "a", "i"]

/-- A rule gives a noun another form, with the mark of a plural. -/
def Marks (rule : Rule) : Prop :=
  ∀ noun p, rule noun = some p → p ≠ noun ∧ hasEnding markEndings p = true

theorem marks_replacing {ending new : String} {fit : List Char → Bool}
    (hne : new.toList ≠ ending.toList) (h : hasEnding markEndings new.toList = true) :
    Marks (replacing ending new fit) := by
  intro noun p hp
  obtain ⟨stem, -, rfl, rfl⟩ := exists_of_replacing hp
  exact ⟨fun heq => hne (List.append_cancel_left heq), hasEnding_append h stem⟩

theorem marks_adding {added : String} {endings : List String} (hne : added.toList ≠ [])
    (h : hasEnding markEndings added.toList = true) : Marks (adding added endings) := by
  intro noun p hp
  simp only [adding] at hp
  split at hp <;> cases hp
  exact ⟨fun heq => hne (List.append_right_eq_self.mp heq), hasEnding_append h noun⟩

theorem marks_pluralRules : ∀ rule ∈ pluralRules, Marks rule := by
  simp only [pluralRules, List.forall_mem_cons, List.not_mem_nil, false_imp_iff, implies_true, and_true]
  and_intros
  all_goals first
    | refine marks_replacing ?_ ?_
    | refine marks_adding ?_ ?_
  all_goals decide

/-- The regular plural is not the noun, and has the mark of a plural. -/
theorem pluralNoun_marked (noun : List Char) :
    pluralNoun noun ≠ noun ∧ hasEnding markEndings (pluralNoun noun) = true := by
  rw [pluralNoun]
  cases hp : firstApplying pluralRules noun with
  | none => exact ⟨by simp, hasEnding_append (by decide) noun⟩
  | some p =>
    obtain ⟨rule, hmem, hrule⟩ := List.exists_of_findSome?_eq_some hp
    exact marks_pluralRules rule hmem noun p hrule

/-- The plurals of listed nouns are plurals, and those of them that have a mark look like plurals. -/
theorem listedNouns_plural : ∀ noun ∈ listedNouns, pluralSettles noun = true ∧
    (hasEnding markEndings noun = true → isPlural noun = true ∧ staysPlural noun = true) := by
  decide +kernel

theorem isPlural_pluralNoun (noun : List Char) :
    isPlural (pluralNoun noun) = staysPlural (pluralNoun noun) := by
  have hmark := (pluralNoun_marked noun).2
  by_cases hlisted : Listed (pluralNoun noun)
  · obtain ⟨hplural, hstays⟩ := (listedNouns_plural _ (mem_listedNouns hlisted)).2 hmark
    rw [hplural, hstays]
  · refine isPlural_of_regular (fun hnil => ?_) hlisted
    rw [hnil] at hmark
    cases hmark

/-- A noun in the plural stays as it is; any other gets its regular plural. -/
theorem pluralize_eq_ite (plain : Plain noun) (hne : noun ≠ []) (h : ¬Listed noun) :
    pluralize noun = if staysPlural noun = true then noun else pluralNoun noun := by
  rw [pluralize_of_regular plain hne h]
  simp only [pluralNoun_singularNoun_iff]

/-- The nouns that are plurals. -/
theorem pluralize_eq_self_iff (plain : Plain noun) : pluralize noun = noun ↔ isPlural noun = true := by
  by_cases hne : noun = []
  · subst hne
    decide
  by_cases hmem : noun ∈ uncountable
  · simp [pluralize_of_mem plain hmem, isPlural, hmem]
  cases he : irregular? noun with
  | some e =>
    rw [pluralize_of_irregular plain hmem he, eq_comm]
    simp [isPlural, hmem, he, hne]
  | none =>
    have hregular := not_listed hmem he
    rw [pluralize_eq_ite plain hne hregular, isPlural_of_regular hne hregular]
    split
    · next hstays => exact iff_of_true rfl hstays
    · next hstays => exact iff_of_false (pluralNoun_marked noun).1 hstays

/-- The plural of a listed noun is a plural. -/
theorem isPlural_pluralize_of_listed (plain : Plain noun) (h : Listed noun) :
    isPlural (pluralize noun) = true := by
  by_cases hmem : noun ∈ uncountable
  · rw [pluralize_of_mem plain hmem]
    simp [isPlural, hmem]
  · obtain ⟨e, he⟩ := Option.isSome_iff_exists.mp (h.resolve_left hmem)
    obtain ⟨-, hform, -⟩ := irregular?_forms e (mem_of_irregular? he).1
    rw [pluralize_of_irregular plain hmem he]
    simp [isPlural, hform]

/-- The nouns whose plural is a plural. -/
theorem pluralize_pluralize_iff (plain : Plain noun) :
    pluralize (pluralize noun) = pluralize noun ↔ pluralSettles noun = true := by
  rw [pluralize_eq_self_iff (plain_pluralize plain)]
  by_cases hne : noun = []
  · subst hne
    decide
  by_cases hlisted : Listed noun
  · exact iff_of_true (isPlural_pluralize_of_listed plain hlisted)
      (listedNouns_plural noun (mem_listedNouns hlisted)).1
  rw [pluralize_eq_ite plain hne hlisted]
  by_cases hstays : staysPlural noun = true
  · rw [if_pos hstays, isPlural_of_regular hne hlisted]
    refine iff_of_true hstays ?_
    simp only [staysPlural, Bool.and_eq_true, Bool.not_eq_true'] at hstays
    simp [pluralSettles, hstays]
  · rw [if_neg hstays, isPlural_pluralNoun]
    exact staysPlural_pluralNoun_iff hne (Bool.eq_false_iff.mpr hstays)

/-! ## Nouns whose singular is a singular -/

/-- Listed nouns are singulars where a rule has made them. Where one has taken off an `s`, some are plurals,
    and no rule gives them another ending in `s`. -/
theorem listedNouns_singular : ∀ noun ∈ listedNouns, singularRepeats noun = true ∧
    (hasEnding madeEndings noun = true → isSingular noun = true) ∧
      (singularNoun (noun ++ ['s']) = noun → isSingular noun = singularRepeats (noun ++ ['s'])) ∧
        hasEnding ("is" :: singularEndings) noun = false := by
  decide +kernel

theorem doubledPlurals_singularNoun : ∀ noun ∈ doubledPlurals,
    Listed (singularNoun noun) ∧ isSingular (singularNoun noun) = false := by
  decide +kernel

/-- A noun with a listed noun for its regular singular. -/
theorem isSingular_singularNoun_of_listed (h : ¬Listed noun) (hlisted : Listed (singularNoun noun)) :
    isSingular (singularNoun noun) = true ↔ singularRepeats noun = true := by
  obtain ⟨-, hmade, hshort, hendings⟩ := listedNouns_singular _ (mem_listedNouns hlisted)
  cases singularized noun with
  | same heq => exact absurd (heq ▸ hlisted) h
  | shortened heq =>
    rw [hshort (congrArg singularNoun heq.symm), ← heq]
  | ended hend =>
    simp only [hasEnding, List.any_cons, Bool.or_eq_false_iff] at hend hendings
    rw [hendings.2] at hend
    cases hend
  | made hend =>
    have hs := hmade hend
    have hsettles := (staysSingular_singularNoun_iff noun).mp (staysSingular_of_madeEndings hend)
    have hdoubled : noun ∉ doubledPlurals := fun hmem => by
      rw [(doubledPlurals_singularNoun noun hmem).2] at hs
      cases hs
    exact iff_of_true hs (by simp [singularRepeats, hsettles, hdoubled])
  | loosened _ hend =>
    simp only [hasEnding, List.any_cons, List.any_nil, Bool.or_false, Bool.or_eq_false_iff] at hend hendings
    rw [hendings.1] at hend
    cases hend

theorem isSingular_singularize_of_listed (plain : Plain noun) (h : Listed noun) :
    isSingular (singularize noun) = true := by
  by_cases hmem : noun ∈ uncountable
  · rw [singularize_of_mem plain hmem]
    simp [isSingular, hmem]
  · obtain ⟨e, he⟩ := Option.isSome_iff_exists.mp (h.resolve_left hmem)
    obtain ⟨hform, -, -⟩ := irregular?_forms e (mem_of_irregular? he).1
    rw [singularize_of_irregular plain hmem he]
    simp [isSingular, hform]

/-- The nouns whose singular is a singular. -/
theorem singularize_singularize_iff (plain : Plain noun) :
    singularize (singularize noun) = singularize noun ↔ singularRepeats noun = true := by
  rw [singularize_eq_self_iff (plain_singularize plain)]
  by_cases h : Listed noun
  · exact iff_of_true (isSingular_singularize_of_listed plain h)
      (listedNouns_singular noun (mem_listedNouns h)).1
  rw [singularize_of_regular plain h]
  by_cases hlisted : Listed (singularNoun noun)
  · exact isSingular_singularNoun_of_listed h hlisted
  · have hdoubled : noun ∉ doubledPlurals := fun hmem => hlisted (doubledPlurals_singularNoun noun hmem).1
    rw [isSingular_of_regular hlisted, staysSingular_singularNoun_iff]
    simp [singularRepeats, hdoubled]

/-! ## Words by their last segment -/

section Words

variable (word : List Char)

/-- The segment of a word that is inflected, in lower case. -/
def lastSegment : List Char := (splitWord word).2

/-- What stands before it. -/
def frontSegments : List Char := (splitWord word).1

theorem isFront_frontSegments : IsFront (frontSegments word) := by
  rw [frontSegments, splitWord]
  cases Text.splitAtLast? '_' word with
  | none => exact .inl rfl
  | some parts => exact .inr ⟨parts.1, rfl⟩

theorem plain_lastSegment : Plain (lastSegment word) := by
  have hlower {s : List Char} (h : '_' ∉ s) : Plain (Text.lowercase s) :=
    plain_iff.mpr fun c hc => ⟨Text.toLower_of_mem_lowercase hc,
      fun heq => h (Text.underscore_mem_of_mem_lowercase (heq ▸ hc))⟩
  rw [lastSegment, splitWord]
  cases hsplit : Text.splitAtLast? '_' word with
  | none => exact hlower fun hmem => by simp [Text.splitAtLast?, hmem] at hsplit
  | some parts => exact hlower (Text.eq_of_splitAtLast? hsplit).2

/-- A word in lower case is made up of its segments. -/
theorem exists_segments (h : Text.lowercase word = word) : ∃ front noun,
    IsFront front ∧ Plain noun ∧ lastSegment word = noun ∧ word = front ++ noun := by
  refine ⟨_, _, isFront_frontSegments word, plain_lastSegment word, rfl, ?_⟩
  rw [Text.lowercase_eq_self_iff] at h
  rw [frontSegments, lastSegment, splitWord]
  cases hsplit : Text.splitAtLast? '_' word with
  | none => exact (Text.lowercase_eq_self_iff.mpr h).symm
  | some parts =>
    have hword := (Text.eq_of_splitAtLast? hsplit).1
    have hlast : Text.lowercase parts.2 = parts.2 :=
      Text.lowercase_eq_self_iff.mpr fun c hc => h c (by simp [hword, hc])
    simp only [hlast]
    rw [hword]
    simp

/-- The plural of a word is that of its last segment, or the word as it was written. -/
theorem pluralize_eq : pluralize word = frontSegments word ++ pluralize (lastSegment word) ∨
    pluralize word = word ∧ pluralize (lastSegment word) = lastSegment word := by
  have plain := plain_lastSegment word
  unfold pluralize
  rw [plain.splitWord_eq, frontSegments, lastSegment]
  dsimp only
  split
  · exact .inr ⟨rfl, rfl⟩
  · cases irregular? (splitWord word).2 with
    | some e => exact .inl rfl
    | none =>
      dsimp only
      split
      · exact .inr ⟨rfl, rfl⟩
      · exact .inl rfl

theorem singularize_eq : singularize word = frontSegments word ++ singularize (lastSegment word) ∨
    singularize word = word ∧ singularize (lastSegment word) = lastSegment word := by
  have plain := plain_lastSegment word
  unfold singularize
  rw [plain.splitWord_eq, frontSegments, lastSegment]
  dsimp only
  split
  · exact .inr ⟨rfl, rfl⟩
  · cases irregular? (splitWord word).2 <;> exact .inl rfl

/-- The last segment tells whether the plural of a word is its own plural. -/
theorem pluralize_pluralize_word :
    pluralize (pluralize word) = pluralize word ↔ pluralSettles (lastSegment word) = true := by
  have plain := plain_lastSegment word
  rw [← pluralize_pluralize_iff plain]
  rcases pluralize_eq word with heq | ⟨heq, hlast⟩
  · rw [heq, pluralize_append (isFront_frontSegments word) (plain_pluralize plain),
      List.append_cancel_left_eq]
  · simp [heq, hlast]

theorem singularize_singularize_word :
    singularize (singularize word) = singularize word ↔ singularRepeats (lastSegment word) = true := by
  have plain := plain_lastSegment word
  rw [← singularize_singularize_iff plain]
  rcases singularize_eq word with heq | ⟨heq, hlast⟩
  · rw [heq, singularize_append (isFront_frontSegments word) (plain_singularize plain),
      List.append_cancel_left_eq]
  · simp [heq, hlast]

/-- The last segment tells whether a word in lower case is a singular. -/
theorem singularize_eq_self_word (h : Text.lowercase word = word) :
    singularize word = word ↔ isSingular (lastSegment word) = true := by
  obtain ⟨front, noun, hfront, plain, hlast, rfl⟩ := exists_segments word h
  rw [hlast, singularize_append hfront plain, List.append_cancel_left_eq, singularize_eq_self_iff plain]

/-- The last segment tells whether the plural of a word in lower case leads back to it. -/
theorem singularize_pluralize_word (h : Text.lowercase word = word) :
    singularize (pluralize word) = word ↔ isRecovered (lastSegment word) = true := by
  obtain ⟨front, noun, hfront, plain, hlast, rfl⟩ := exists_segments word h
  rw [hlast, pluralize_append hfront plain, singularize_append hfront (plain_pluralize plain),
    List.append_cancel_left_eq]
  by_cases hne : noun = []
  · subst hne
    decide
  · exact singularize_pluralize_iff plain (plain_pluralize plain) hne

end Words

end English

namespace Inflector

/-- The segment of a word that the English inflector inflects, in lower case. -/
def lastNoun (w : String) : List Char := English.lastSegment w.toList

/-- The words whose plural is its own plural. -/
theorem pluralize_pluralize_eq_iff (w : String) :
    english.pluralize (english.pluralize w) = english.pluralize w ↔
      English.pluralSettles (lastNoun w) = true := by
  rw [english]
  simp only [String.toList_ofList, String.ofList_inj]
  exact English.pluralize_pluralize_word w.toList

/-- The plural of `menu` is taken for a singular. -/
theorem pluralize_pluralize_menu :
    english.pluralize "menu" = "menus" ∧ english.pluralize (english.pluralize "menu") = "menuss" := by
  decide

/-- The words whose singular is its own singular. -/
theorem singularize_singularize_eq_iff (w : String) :
    english.singularize (english.singularize w) = english.singularize w ↔
      English.singularRepeats (lastNoun w) = true := by
  rw [english]
  simp only [String.toList_ofList, String.ofList_inj]
  exact English.singularize_singularize_word w.toList

/-- The singular of `axes` is taken for a plural. -/
theorem singularize_singularize_axes :
    english.singularize "axes" = "axis" ∧
      english.singularize (english.singularize "axes") = "axi" := by
  decide

/-- The words in lower case that are singulars, and those of them that their plurals lead back to. -/
theorem singularize_pluralize_eq_iff {w : String} (h : Text.lowercase w.toList = w.toList) :
    (english.singularize w = w ↔ English.isSingular (lastNoun w) = true) ∧
      (english.singularize (english.pluralize w) = w ↔ English.isRecovered (lastNoun w) = true) ∧
        (English.isRecovered (lastNoun w) = true → English.isSingular (lastNoun w) = true) := by
  refine ⟨?_, ?_, English.isSingular_of_isRecovered⟩
  · rw [english, ← String.toList_inj]
    simp only [String.toList_ofList]
    exact English.singularize_eq_self_word w.toList h
  · rw [english, ← String.toList_inj]
    simp only [String.toList_ofList]
    exact English.singularize_pluralize_word w.toList h

theorem singularize_pluralize_blog_post :
    Text.lowercase "blog_post".toList = "blog_post".toList ∧
      english.singularize "blog_post" = "blog_post" ∧
        english.singularize (english.pluralize "blog_post") = "blog_post" := by
  have h : Text.lowercase "blog_post".toList = "blog_post".toList := by decide
  have hlast : lastNoun "blog_post" = "post".toList := by decide
  obtain ⟨hsingular, hback, himplies⟩ := singularize_pluralize_eq_iff h
  rw [hlast] at hsingular hback himplies
  have hrecovered : English.isRecovered "post".toList = true := by decide
  exact ⟨h, hsingular.mpr (himplies hrecovered), hback.mpr hrecovered⟩

/-- The plural of `cookie`, a singular, is taken for that of a noun in `y`. -/
theorem singularize_pluralize_cookie :
    Text.lowercase "cookie".toList = "cookie".toList ∧ english.singularize "cookie" = "cookie" ∧
      english.pluralize "cookie" = "cookies" ∧
        english.singularize (english.pluralize "cookie") = "cooky" := by
  have hplural : english.pluralize "cookie" = "cookies" := by decide
  rw [hplural]
  decide

end Inflector

end SqlMapper
