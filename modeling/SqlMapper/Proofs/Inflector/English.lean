import SqlMapper.Proofs.Inflector.Plurals
import SqlMapper.Proofs.Text.Case
import SqlMapper.Proofs.Text.Split

/-!
# Nouns and their plurals

What the rules say about endings, for all nouns: with the irregular ones, with those without a plural, and
with the few whose regular plural is taken for one of these.

* `isSingular`, `isRecovered`: the nouns that are singulars, and those that their plurals lead back to.
* `singularize_eq_self_iff`, `singularize_pluralize_iff`: these are the nouns.
* `forall_pluralize`, `forall_singularize`: a property of small letters and of all letters of a noun is one
  of all letters of its plural and of its singular.
-/

namespace SqlMapper.English

/-! ## Specification -/

/-- Nouns whose regular plural is listed among the others. -/
def strayNouns : List (List Char) :=
  ["specy", "sery", "jean", "new", "mofe", "quizze"].map String.toList

/-- Whether the singular of a noun is the noun itself. -/
def isSingular (noun : List Char) : Bool :=
  uncountable.contains noun ||
    match irregular? noun with
    | some (singular, _) => noun == singular
    | none => staysSingular noun

/-- Whether the singular of its plural is the noun itself. -/
def isRecovered (noun : List Char) : Bool :=
  uncountable.contains noun ||
    match irregular? noun with
    | some (singular, _) => noun == singular
    | none => !strayNouns.contains noun && leadsBack noun

/-! ## Nouns with a form of their own -/

/-- A noun that the rules leave alone. -/
def Listed (noun : List Char) : Prop := noun ∈ uncountable ∨ (irregular? noun).isSome = true

instance (noun : List Char) : Decidable (Listed noun) := inferInstanceAs (Decidable (_ ∨ _))

theorem listed_of_irregular? {noun : List Char} {e : List Char × List Char}
    (h : irregular? noun = some e) : Listed noun := .inr (by simp [h])

theorem mem_of_irregular? {noun : List Char} {e : List Char × List Char}
    (h : irregular? noun = some e) : e ∈ irregular ∧ (noun = e.1 ∨ noun = e.2) := by
  have hbool := List.find?_some h
  simp only [Bool.or_eq_true, beq_iff_eq] at hbool
  exact ⟨List.mem_of_find?_eq_some h, hbool.imp Eq.symm Eq.symm⟩

/-- Both forms of an irregular noun lead to it. -/
theorem irregular?_forms : ∀ e ∈ irregular,
    irregular? e.1 = some e ∧ irregular? e.2 = some e ∧ e.2 ∉ uncountable := by
  decide +kernel

/-- The nouns that the rules leave alone. -/
def listedNouns : List (List Char) := uncountable ++ irregular.flatMap fun e => [e.1, e.2]

theorem mem_listedNouns {noun : List Char} (h : Listed noun) : noun ∈ listedNouns := by
  refine List.mem_append.mpr (h.imp_right fun hsome => ?_)
  obtain ⟨e, he⟩ := Option.isSome_iff_exists.mp hsome
  obtain ⟨hmem, hform⟩ := mem_of_irregular? he
  exact List.mem_flatMap.mpr ⟨e, hmem, by simpa using hform⟩

/-- A listed noun is the regular plural of no other noun but these. -/
theorem singularNoun_of_listed {noun : List Char} (h : Listed noun) :
    Listed (singularNoun noun) ∨ singularNoun noun ∈ strayNouns := by
  have hall : ∀ noun ∈ listedNouns,
      Listed (singularNoun noun) ∨ singularNoun noun ∈ strayNouns := by decide +kernel
  exact hall noun (mem_listedNouns h)

theorem listed_pluralNoun : ∀ noun ∈ strayNouns, Listed (pluralNoun noun) := by decide +kernel

/-! ## Words of one segment -/

section Words

variable {noun : List Char}

/-- A word in lower case without underscores. -/
def Plain (noun : List Char) : Prop := splitWord noun = ([], noun)

theorem Plain.splitWord_eq (plain : Plain noun) : splitWord noun = ([], noun) := plain

theorem pluralize_of_mem (plain : Plain noun) (h : noun ∈ uncountable) : pluralize noun = noun := by
  simp [pluralize, plain.splitWord_eq, h]

theorem singularize_of_mem (plain : Plain noun) (h : noun ∈ uncountable) : singularize noun = noun := by
  simp [singularize, plain.splitWord_eq, h]

theorem ne_nil_of_irregular? {e : List Char × List Char} (he : irregular? noun = some e) :
    noun ≠ [] := by
  rintro rfl
  have hnone : irregular? [] = none := by decide
  simp [hnone] at he

theorem pluralize_of_irregular {e : List Char × List Char} (plain : Plain noun)
    (h : noun ∉ uncountable) (he : irregular? noun = some e) : pluralize noun = e.2 := by
  simp [pluralize, plain.splitWord_eq, ne_nil_of_irregular? he, h, he]

theorem singularize_of_irregular {e : List Char × List Char} (plain : Plain noun)
    (h : noun ∉ uncountable) (he : irregular? noun = some e) : singularize noun = e.1 := by
  simp [singularize, plain.splitWord_eq, ne_nil_of_irregular? he, h, he]

theorem not_listed (h : noun ∉ uncountable) (hnone : irregular? noun = none) : ¬Listed noun := by
  rintro (hmem | hsome)
  · exact h hmem
  · simp [hnone] at hsome

/-- A noun in the plural stays as it is. -/
theorem pluralize_of_regular (plain : Plain noun) (hne : noun ≠ []) (h : ¬Listed noun) :
    pluralize noun =
      if singularNoun noun ≠ noun ∧ pluralNoun (singularNoun noun) = noun then noun
      else pluralNoun noun := by
  obtain ⟨hmem, hsome⟩ := not_or.mp h
  rw [Option.not_isSome_iff_eq_none] at hsome
  simp [pluralize, plain.splitWord_eq, hne, hmem, hsome]

theorem singularize_of_regular (plain : Plain noun) (h : ¬Listed noun) :
    singularize noun = singularNoun noun := by
  obtain ⟨hmem, hsome⟩ := not_or.mp h
  rw [Option.not_isSome_iff_eq_none] at hsome
  by_cases hne : noun = []
  · subst hne
    decide
  · simp [singularize, plain.splitWord_eq, hne, hmem, hsome]

/-- The singular of a listed noun is listed. -/
theorem listed_singularize (plain : Plain noun) (h : Listed noun) : Listed (singularize noun) := by
  by_cases hmem : noun ∈ uncountable
  · rw [singularize_of_mem plain hmem]
    exact h
  · obtain ⟨e, he⟩ := Option.isSome_iff_exists.mp (h.resolve_left hmem)
    rw [singularize_of_irregular plain hmem he]
    exact listed_of_irregular? (irregular?_forms e (mem_of_irregular? he).1).1

/-- The nouns that are singulars. -/
theorem singularize_eq_self_iff (plain : Plain noun) :
    singularize noun = noun ↔ isSingular noun = true := by
  by_cases hmem : noun ∈ uncountable
  · simp [singularize_of_mem plain hmem, isSingular, hmem]
  cases he : irregular? noun with
  | some e =>
    rw [singularize_of_irregular plain hmem he, eq_comm]
    simp [isSingular, hmem, he]
  | none =>
    rw [singularize_of_regular plain (not_listed hmem he), singularNoun_eq_self_iff]
    simp [isSingular, hmem, he]

/-- The plural of a regular noun leads back to it by the rules, unless it is listed. -/
theorem singularize_pluralize_of_regular (plain : Plain noun) (plain' : Plain (pluralize noun))
    (hne : noun ≠ []) (h : ¬Listed noun) :
    singularize (pluralize noun) = noun ↔ noun ∉ strayNouns ∧ leadsBack noun = true := by
  by_cases hs : staysSingular noun = true
  · have hself := (singularNoun_eq_self_iff noun).mpr hs
    have hplural : pluralize noun = pluralNoun noun := by
      rw [pluralize_of_regular plain hne h, if_neg fun hplural => hplural.1 hself]
    rw [← singularNoun_pluralNoun_iff hne hs]
    by_cases hlisted : Listed (pluralize noun)
    · refine iff_of_false (fun heq => h (heq ▸ listed_singularize plain' hlisted)) ?_
      rintro ⟨hstray, heq⟩
      rw [hplural] at hlisted
      rcases singularNoun_of_listed hlisted with hl | hl
      · exact h (heq ▸ hl)
      · exact hstray (heq ▸ hl)
    · rw [singularize_of_regular plain' hlisted, hplural, iff_and_self]
      rw [hplural] at hlisted
      exact fun _ hstray => hlisted (listed_pluralNoun noun hstray)
  · -- a plural is kept as its own plural, or gets an `s` that no rule takes off again
    refine iff_of_false (fun heq => ?_) fun hback => hs (staysSingular_of_leadsBack hback.2)
    have hself : singularNoun noun ≠ noun := fun hself => hs ((singularNoun_eq_self_iff noun).mp hself)
    have hlisted : ¬Listed (pluralize noun) :=
      fun hlisted => h (heq ▸ listed_singularize plain' hlisted)
    rw [singularize_of_regular plain' hlisted, pluralize_of_regular plain hne h] at heq
    split at heq
    · exact hself heq
    · next hnot =>
      rcases pluralNoun_of_not_staysSingular (Bool.eq_false_iff.mpr hs) with hp | hp
      · exact hnot ⟨hself, hp⟩
      · exact hp heq

/-- The nouns that their plurals lead back to. -/
theorem singularize_pluralize_iff (plain : Plain noun) (plain' : Plain (pluralize noun))
    (hne : noun ≠ []) : singularize (pluralize noun) = noun ↔ isRecovered noun = true := by
  by_cases hmem : noun ∈ uncountable
  · rw [pluralize_of_mem plain hmem, singularize_of_mem plain hmem]
    simp [isRecovered, hmem]
  cases he : irregular? noun with
  | some e =>
    obtain ⟨-, hform, hcount⟩ := irregular?_forms e (mem_of_irregular? he).1
    rw [pluralize_of_irregular plain hmem he] at plain' ⊢
    rw [singularize_of_irregular plain' hcount hform, eq_comm]
    simp [isRecovered, hmem, he]
  | none =>
    rw [singularize_pluralize_of_regular plain plain' hne (not_listed hmem he)]
    simp only [isRecovered, he, Bool.or_eq_true, Bool.and_eq_true, Bool.not_eq_true',
      List.contains_eq_mem, decide_eq_true_eq, decide_eq_false_iff_not, hmem, false_or]

/-- A noun that comes back is a singular. -/
theorem isSingular_of_isRecovered (h : isRecovered noun = true) : isSingular noun = true := by
  unfold isRecovered at h
  unfold isSingular
  cases he : irregular? noun with
  | some e => simpa [he] using h
  | none =>
    simp only [he, Bool.or_eq_true, Bool.and_eq_true] at h ⊢
    exact h.imp_right fun hback => staysSingular_of_leadsBack hback.2

end Words

/-! ## Small letters -/

/-- Whether a word in lower case may have a character. -/
def isSmall (c : Char) : Bool := c.isLower || c.isDigit

/-- A word in lower case. -/
def AllSmall (w : List Char) : Prop := ∀ c ∈ w, isSmall c = true

instance (w : List Char) : Decidable (AllSmall w) :=
  inferInstanceAs (Decidable (∀ c ∈ w, isSmall c = true))

theorem toNat_of_isSmall {c : Char} (h : isSmall c = true) :
    97 ≤ c.toNat ∧ c.toNat ≤ 122 ∨ 48 ≤ c.toNat ∧ c.toNat ≤ 57 := by
  simpa [isSmall, Text.isLower_iff_toNat, Char.isDigit, UInt32.le_iff_toNat_le] using h

theorem ascii_of_isSmall {c : Char} (h : isSmall c = true) : c.toNat < 128 := by
  have := toNat_of_isSmall h
  omega

theorem not_isUpper_of_isSmall {c : Char} (h : isSmall c = true) : ¬c.isUpper = true := by
  have hnat := toNat_of_isSmall h
  rw [Text.isUpper_iff_toNat]
  omega

theorem map_toLower_of_small {w : List Char} (h : AllSmall w) : w.map Char.toLower = w := by
  rw [List.map_congr_left fun c hc =>
    Text.toLower_of_not_isUpper (not_isUpper_of_isSmall (h c hc))]
  exact List.map_id' w

theorem not_mem_of_small {w : List Char} {c : Char} (h : AllSmall w) (hc : isSmall c = false) :
    c ∉ w :=
  fun hmem => Bool.false_ne_true (hc.symm.trans (h c hmem))

/-! ## Letters under the rules -/

section Letters

variable {P : Char → Prop}

/-- A rule keeps a property of all letters. -/
def Keeps (P : Char → Prop) (rule : Rule) : Prop :=
  ∀ noun p, (∀ c ∈ noun, P c) → rule noun = some p → ∀ c ∈ p, P c

theorem keeps_replacing {ending new : String} {fit : List Char → Bool} (h : ∀ c ∈ new.toList, P c) :
    Keeps P (replacing ending new fit) := by
  intro noun p hnoun hp
  obtain ⟨stem, -, rfl, rfl⟩ := exists_of_replacing hp
  exact List.forall_mem_append.mpr ⟨fun c hc => hnoun c (List.mem_append_left _ hc), h⟩

theorem keeps_adding {added : String} {endings : List String} (h : ∀ c ∈ added.toList, P c) :
    Keeps P (adding added endings) := by
  intro noun p hnoun hp
  simp only [adding] at hp
  split at hp <;> cases hp
  exact List.forall_mem_append.mpr ⟨hnoun, h⟩

theorem keeps_dropping (n : Nat) (endings : List String) : Keeps P (dropping n endings) := by
  intro noun p hnoun hp
  simp only [dropping] at hp
  split at hp <;> cases hp
  exact fun c hc => hnoun c (List.mem_of_mem_take hc)

theorem keeps_sibilant (ending : String) : Keeps P (sibilant ending) := by
  intro noun p hnoun hp
  simp only [sibilant] at hp
  split at hp
  · cases hp
    exact hnoun
  · exact keeps_replacing (by simp) noun p hnoun hp

theorem forall_firstApplying {rules : List Rule} {noun otherwise : List Char}
    (h : ∀ rule ∈ rules, Keeps P rule) (hnoun : ∀ c ∈ noun, P c) (hother : ∀ c ∈ otherwise, P c) :
    ∀ c ∈ (firstApplying rules noun).getD otherwise, P c := by
  cases hp : firstApplying rules noun with
  | none => exact hother
  | some p =>
    obtain ⟨rule, hmem, hrule⟩ := List.exists_of_findSome?_eq_some hp
    exact h rule hmem noun p hnoun hrule

variable {noun : List Char} (hsmall : ∀ c, isSmall c = true → P c) (h : ∀ c ∈ noun, P c)
include hsmall h

/-- The plural has the letters of the noun and small ones. -/
theorem forall_pluralNoun : ∀ c ∈ pluralNoun noun, P c := by
  have hended : ∀ {l : List Char}, AllSmall l → ∀ c ∈ l, P c := fun hl c hc => hsmall c (hl c hc)
  refine forall_firstApplying ?_ h (List.forall_mem_append.mpr ⟨h, hended (by simp [AllSmall, isSmall])⟩)
  simp only [pluralRules, List.forall_mem_cons, List.not_mem_nil, false_imp_iff, implies_true, and_true]
  and_intros
  all_goals first
    | refine keeps_replacing (hended ?_)
    | refine keeps_adding (hended ?_)
  all_goals simp [AllSmall, isSmall]

/-- The singular has letters of the noun and small ones. -/
theorem forall_singularNoun : ∀ c ∈ singularNoun noun, P c := by
  have hended : ∀ {l : List Char}, AllSmall l → ∀ c ∈ l, P c := fun hl c hc => hsmall c (hl c hc)
  refine forall_firstApplying ?_ h h
  simp only [singularRules, List.forall_mem_cons, List.not_mem_nil, false_imp_iff, implies_true, and_true]
  and_intros
  all_goals first
    | exact keeps_dropping _ _
    | exact keeps_sibilant _
    | refine keeps_replacing (hended ?_)
  all_goals simp [AllSmall, isSmall]

end Letters

/-! ## Words of several segments -/

/-- Whether a word that is not taken apart and stays in lower case may have a character. -/
def IsPlainLetter (c : Char) : Prop := Text.toLower c = [c] ∧ c ≠ '_'

theorem plain_iff {noun : List Char} : Plain noun ↔ ∀ c ∈ noun, IsPlainLetter c := by
  have hsplit : Plain noun ↔ Text.lowercase noun = noun ∧ '_' ∉ noun := by
    by_cases hmem : '_' ∈ noun <;> simp [Plain, splitWord, Text.splitAtLast?, hmem]
  rw [hsplit, Text.lowercase_eq_self_iff]
  exact ⟨fun h c hc => ⟨h.1 c hc, fun heq => h.2 (heq ▸ hc)⟩,
    fun h => ⟨fun c hc => (h c hc).1, fun hmem => (h '_' hmem).2 rfl⟩⟩

theorem isPlainLetter_of_isSmall {c : Char} (h : isSmall c = true) : IsPlainLetter c := by
  refine ⟨?_, fun heq => ?_⟩
  · rw [Text.toLower_ascii (ascii_of_isSmall h),
      Text.toLower_of_not_isUpper (not_isUpper_of_isSmall h)]
  · rw [heq] at h
    exact absurd h (by decide)

theorem plain_of_small {noun : List Char} (h : AllSmall noun) : Plain noun :=
  plain_iff.mpr fun c hc => isPlainLetter_of_isSmall (h c hc)

/-- What can stand before the last segment of a word: nothing, or segments with an underscore at the end. -/
def IsFront (front : List Char) : Prop := front = [] ∨ ∃ f, front = f ++ ['_']

theorem splitWord_append {front noun : List Char} (hfront : IsFront front) (plain : Plain noun) :
    splitWord (front ++ noun) = (front, noun) := by
  rcases hfront with rfl | ⟨f, rfl⟩
  · exact plain
  · have hletters := plain_iff.mp plain
    have hlower : Text.lowercase noun = noun :=
      Text.lowercase_eq_self_iff.mpr fun c hc => (hletters c hc).1
    rw [List.append_assoc, List.singleton_append, splitWord,
      Text.splitAtLast?_append fun hmem => (hletters '_' hmem).2 rfl]
    simp [hlower]

theorem pluralize_append {front noun : List Char} (hfront : IsFront front) (plain : Plain noun) :
    pluralize (front ++ noun) = front ++ pluralize noun := by
  unfold pluralize
  rw [splitWord_append hfront plain, plain.splitWord_eq]
  dsimp only
  split
  · rfl
  · cases irregular? noun with
    | some e => rfl
    | none =>
      dsimp only
      split <;> rfl

theorem singularize_append {front noun : List Char} (hfront : IsFront front) (plain : Plain noun) :
    singularize (front ++ noun) = front ++ singularize noun := by
  unfold singularize
  rw [splitWord_append hfront plain, plain.splitWord_eq]
  dsimp only
  split
  · rfl
  · cases irregular? noun <;> rfl

theorem small_of_irregular? {noun : List Char} {e : List Char × List Char}
    (he : irregular? noun = some e) : AllSmall e.1 ∧ AllSmall e.2 := by
  have hforms : ∀ e ∈ irregular, AllSmall e.1 ∧ AllSmall e.2 := by simp [irregular, AllSmall, isSmall]
  exact hforms e (mem_of_irregular? he).1

section Letters

variable {P : Char → Prop} {noun : List Char} (plain : Plain noun)
  (hsmall : ∀ c, isSmall c = true → P c) (h : ∀ c ∈ noun, P c)
include plain hsmall h

theorem forall_pluralize : ∀ c ∈ pluralize noun, P c := by
  unfold pluralize
  rw [plain.splitWord_eq]
  dsimp only
  split
  · exact h
  · cases he : irregular? noun with
    | some e => exact fun c hc => hsmall c ((small_of_irregular? he).2 c hc)
    | none =>
      dsimp only
      split
      · exact h
      · exact forall_pluralNoun hsmall h

theorem forall_singularize : ∀ c ∈ singularize noun, P c := by
  unfold singularize
  rw [plain.splitWord_eq]
  dsimp only
  split
  · exact h
  · cases he : irregular? noun with
    | some e => exact fun c hc => hsmall c ((small_of_irregular? he).1 c hc)
    | none => exact forall_singularNoun hsmall h

end Letters

theorem small_pluralize {noun : List Char} (h : AllSmall noun) : AllSmall (pluralize noun) :=
  forall_pluralize (plain_of_small h) (fun _ => id) h

theorem small_singularize {noun : List Char} (h : AllSmall noun) : AllSmall (singularize noun) :=
  forall_singularize (plain_of_small h) (fun _ => id) h

theorem plain_pluralize {noun : List Char} (plain : Plain noun) : Plain (pluralize noun) :=
  plain_iff.mpr (forall_pluralize plain (fun _ => isPlainLetter_of_isSmall) (plain_iff.mp plain))

theorem plain_singularize {noun : List Char} (plain : Plain noun) : Plain (singularize noun) :=
  plain_iff.mpr (forall_singularize plain (fun _ => isPlainLetter_of_isSmall) (plain_iff.mp plain))

end SqlMapper.English
