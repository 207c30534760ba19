import SqlMapper.Proofs.Inflector.Names
import SqlMapper.Proofs.Model.Catalog

/-!
# Finding a declared type

A declared type is looked up under the type name that a reference is read as. Type names are singular, so a
type whose name is a plural is not found; nor is one under its table name if the plural does not lead back.

* `Catalog.resolve_define_eq_ok_iff`: a reference leads to the declared type if it is read as its name.
* `TypeName.resolve_define_iff`: the type names that are found by their snake case form and by their table.
-/

namespace SqlMapper

open English (AllSmall isSmall isSingular isRecovered)

/-- A reference leads to the only declared type if it is read as its name. -/
theorem Catalog.resolve_define_eq_ok_iff (i : Inflector) (name ref : String) :
    ((empty i).define name).2.resolve (.named ref) = .ok ((empty i).define name).1.entity ↔
      i.classify ref = name := by
  have hlookup : ((empty i).define name).2.lookup (i.classify ref) =
      if i.classify ref = name then some ((empty i).define name).1 else none :=
    lookup_put name (.ofTable name (i.tableize name)) (i.classify ref)
  have hinflector : ((empty i).define name).2.inflector = i := rfl
  simp only [resolve, hinflector, hlookup]
  by_cases h : i.classify ref = name
  · simp [h]
  · simp [h]

/-! ## How references are read -/

theorem unqualified_of_not_mem {s : List Char} (h : '.' ∉ s) :
    Inflector.unqualified (String.ofList s) = String.ofList s := by
  simp [Inflector.unqualified, Text.splitAtLast?, h]

namespace TypeName

variable (n : TypeName) {x : List Char}

theorem isFront_snakeFront : English.IsFront n.snakeFront := by
  rcases List.eq_nil_or_concat n.front with h | ⟨front, w, h⟩
  · exact .inl (by simp [snakeFront, h])
  · exact .inr ⟨front.flatMap (fun w => w.noun ++ ['_']) ++ w.noun, by simp [snakeFront, h]⟩

theorem tableize_text : Inflector.english.tableize n.text =
    String.ofList (n.snakeFront ++ English.pluralize n.last.noun) := by
  rw [Inflector.tableize, underscore_text]
  simp only [Inflector.english, String.toList_ofList]
  rw [English.pluralize_append n.isFront_snakeFront (English.plain_of_small n.last.small_noun)]

/-- A text in snake case is read as a given type name if the singular of its last word is. -/
theorem classify_eq_text_iff (hx : AllSmall x) :
    Inflector.english.classify (String.ofList (n.snakeFront ++ x)) = n.text ↔
      English.singularize x = n.last.noun := by
  rw [Inflector.classify, unqualified_of_not_mem (n.not_mem_snake hx (by decide) (by decide))]
  simp only [Inflector.english, String.toList_ofList]
  rw [English.singularize_append n.isFront_snakeFront (English.plain_of_small hx),
    camelize_eq_text_iff n (English.small_singularize hx)]

/-- The singular is taken in lower case, where there is one. -/
theorem singularize_text (w : NameWord) :
    English.singularize w.text =
      if w.noun ∈ English.uncountable then w.text else English.singularize w.noun := by
  have hascii : ∀ c ∈ w.text, c.toNat < 128 := by
    intro c hc
    rcases List.mem_cons.mp hc with rfl | hc
    · have := w.toNat_initial
      omega
    · exact English.ascii_of_isSmall (w.rest_small c hc)
  have hnoun : w.text.map Char.toLower = w.noun := by
    rw [NameWord.text, List.map_cons, English.map_toLower_of_small w.rest_small]
    rfl
  have htext : English.splitWord w.text = ([], w.noun) := by
    rw [English.splitWord, Text.splitAtLast?, if_neg (w.not_mem_text (by decide)),
      Text.lowercase_ascii hascii, hnoun]
  have plain := (English.plain_of_small w.small_noun).splitWord_eq
  by_cases h : w.noun ∈ English.uncountable <;>
    simp [English.singularize, htext, plain, w.noun_ne_nil, h]

/-- A type name of one word is read like the word in lower case. -/
theorem classify_text_iff (hone : n.front = []) :
    Inflector.english.classify n.text = n.text ↔ English.singularize n.last.noun = n.last.noun := by
  have htext : n.text = String.ofList n.last.text := by simp [text, hone]
  have hdot : '.' ∉ n.last.text := n.last.not_mem_text (by decide)
  rw [Inflector.classify, htext, unqualified_of_not_mem hdot]
  simp only [Inflector.english, String.toList_ofList]
  rw [singularize_text]
  split
  · next h =>
    exact iff_of_true n.last.camelize_text
      (English.singularize_of_mem (English.plain_of_small n.last.small_noun) h)
  · rw [← n.camelize_eq_text_iff (English.small_singularize n.last.small_noun), htext]
    simp [snakeFront, hone]

/-! ## Which type names are found -/

/-- **Declared types are found.** A declared type is found by its snake case form if the last word of its
    name is a singular, and by its table if the plural of that word leads back to it, which only singulars
    do. If its name is one word, it is found by its name as by its snake case form. -/
theorem resolve_define_iff :
    let declared := (Catalog.empty .english).define n.text
    (declared.2.resolve (.named (underscore n.text)) = .ok declared.1.entity ↔
        isSingular n.last.noun = true) ∧
      (declared.2.resolve (.named declared.1.entity.table) = .ok declared.1.entity ↔
        isRecovered n.last.noun = true) ∧
      (isRecovered n.last.noun = true → isSingular n.last.noun = true) ∧
      (n.front = [] → (declared.2.resolve (.named n.text) = .ok declared.1.entity ↔
        isSingular n.last.noun = true)) := by
  have hsmall := n.last.small_noun
  have plain := English.plain_of_small hsmall
  have plain' := English.plain_of_small (English.small_pluralize hsmall)
  refine ⟨?_, ?_, English.isSingular_of_isRecovered, fun hone => ?_⟩
  · rw [Catalog.resolve_define_eq_ok_iff, underscore_text, n.classify_eq_text_iff hsmall,
      English.singularize_eq_self_iff plain]
  · rw [Catalog.resolve_define_eq_ok_iff]
    change Inflector.english.classify (Inflector.english.tableize n.text) = n.text ↔ _
    rw [tableize_text, n.classify_eq_text_iff (English.small_pluralize hsmall),
      English.singularize_pluralize_iff plain plain' n.last.noun_ne_nil]
  · rw [Catalog.resolve_define_eq_ok_iff, n.classify_text_iff hone, English.singularize_eq_self_iff plain]

/-- A name of several words that is given as itself is read as one word. -/
example : Inflector.english.classify "BlogPost" = "Blogpost" := by decide +kernel

/-- The name `Post`. -/
def post : TypeName := ⟨[], ⟨'P', "ost".toList, by decide, by decide, by simp [AllSmall, isSmall]⟩⟩

/-- A post is found under all its names. -/
theorem resolve_define_post :
    let declared := (Catalog.empty .english).define "Post"
    declared.2.resolve (.named "Post") = .ok declared.1.entity ∧
      declared.2.resolve (.named "post") = .ok declared.1.entity ∧
      declared.2.resolve (.named "posts") = .ok declared.1.entity := by
  have htext : post.text = "Post" := by decide +kernel
  have hsnake : underscore post.text = "post" := by decide +kernel
  have htable : Inflector.english.tableize post.text = "posts" := by decide +kernel
  obtain ⟨snake, table, -, whole⟩ := post.resolve_define_iff
  refine ⟨?_, ?_, ?_⟩
  · rw [← htext]
    exact (whole rfl).mpr (by decide +kernel)
  · rw [← htext, ← hsnake]
    exact snake.mpr (by decide +kernel)
  · rw [← htext, ← htable]
    exact table.mpr (by decide +kernel)

/-- The name `Posts`. -/
def posts : TypeName := ⟨[], ⟨'P', "osts".toList, by decide, by decide, by simp [AllSmall, isSmall]⟩⟩

/-- A type with a plural for its name is found under none of its names. -/
theorem not_resolve_define_posts :
    let declared := (Catalog.empty .english).define posts.text
    posts.text = "Posts" ∧ declared.1.entity.table = "posts" ∧
      declared.2.resolve (.named "Posts") = .error (.unknownEntity "Post" "Posts") ∧
      declared.2.resolve (.named "posts") = .error (.unknownEntity "Post" "posts") := by
  decide +kernel

end TypeName

end SqlMapper
