import SqlMapper.Proofs.Text.Split
import SqlMapper.Sql.Dialect

/-!
# What is quoted of a field expression

Rendering a field expression adds quotes and changes nothing else, whatever text the expression is. It
adds one pair of backticks or none, and where the pair stands is said here of the text alone: without
the order in which shapes are tried, and without the first bracket or the last blank that is searched
for.

* `Kept`: the fields that stay as they are.
* `Quotes`: the part of a field that is quoted, with what stands around it.
* `ofText_call`, `ofText_kept`, `exists_quotes_of_ofDirection`: the shape of each kind of field.
* `fieldName_quotes_only`: rendering every field expression.
-/

namespace SqlMapper.Sql.FieldExpr

/-! ## Specification -/

/-- A field that is kept as it is: one that ends in a star, has a star alone in its first brackets, or
    calls a function without an argument. -/
inductive Kept : List Char → Prop
  | star (front : List Char) : Kept (front ++ ['*'])
  | count {front : List Char} (rest : List Char) (first : '(' ∉ front) :
    Kept (front ++ '(' :: '*' :: ')' :: rest)
  | noArgument {function : List Char} (first : '(' ∉ function) : Kept (function ++ ['(', ')'])

/-- A call of a function, whose argument has neither a star nor a closing bracket. -/
structure IsCall (s function argument : List Char) : Prop where
  text : s = function ++ '(' :: argument ++ [')']
  first : '(' ∉ function
  noStar : '*' ∉ argument
  closed : ')' ∉ argument

/-- The words after an expression that give it a direction. -/
def directions : List (List Char) := [" DESC".toList, " ASC".toList]

/-- The part of a field that is quoted, with the text before and after it: the argument of a call, an
    expression with a direction, or a whole field that is neither. -/
inductive Quotes : List Char → List Char → List Char → Prop
  | argument {function part : List Char}
    (call : IsCall (function ++ '(' :: part ++ [')']) function part) (some : part ≠ []) :
    Quotes (function ++ ['(']) part [')']
  | directed {part after : List Char} (direction : after ∈ directions) : Quotes [] part after
  | whole {part : List Char} (undirected : ∀ after ∈ directions, ¬ after <:+ part)
    (noCall : ∀ function argument, ¬ IsCall part function argument) : Quotes [] part []

/-- A text without its backticks. -/
def unquoted (s : List Char) : List Char := s.filter (· ≠ '`')

/-- A text in backticks. -/
def inBackticks (s : List Char) : List Char := '`' :: s ++ ['`']

/-! ## Shapes -/

section Shapes

variable {s function argument : List Char}

/-- A field that ends in a star is a wildcard. -/
theorem ofText_star (front : List Char) : ofText (front ++ ['*']) = .wildcard (front ++ ['*']) :=
  if_pos (List.suffix_append front ['*'])

/-- Where the first bracket stands, the shape hangs on what follows it. -/
theorem ofText_bracket {front : List Char} (first : '(' ∉ front) (rest : List Char)
    (noStar : ¬ ['*'] <:+ front ++ '(' :: rest) :
    ofText (front ++ '(' :: rest) =
      if ['*', ')'] <+: rest then .wildcard (front ++ '(' :: rest)
      else match Text.dropSuffix? [')'] rest with
        | some argument =>
          if '*' ∉ argument ∧ ')' ∉ argument then .call front argument
          else ofDirection (front ++ '(' :: rest)
        | none => ofDirection (front ++ '(' :: rest) := by
  rewrite [ofText, if_neg noStar, Text.splitAtFirst_append first]
  rfl

/-- A call is recognised, whatever its function is named. -/
theorem ofText_call (call : IsCall s function argument) : ofText s = .call function argument := by
  obtain ⟨rfl, first, noStar, closed⟩ := call
  have ends : ¬ ['*'] <:+ function ++ '(' :: (argument ++ [')']) := by
    rintro ⟨t, ht⟩
    have last := congrArg List.getLast? ht
    simp [List.getLast?_append, List.getLast?_cons] at last
  have inside : ¬ ['*', ')'] <+: argument ++ [')'] := by
    intro h
    cases argument with
    | nil => simp at h
    | cons c argument =>
      obtain ⟨rfl, -⟩ := List.cons_prefix_cons.mp h
      exact noStar List.mem_cons_self
  rw [List.append_assoc, List.cons_append, ofText_bracket first _ ends, if_neg inside,
    Text.dropSuffix?_append]
  exact if_pos ⟨noStar, closed⟩

/-- A field that is kept is a wildcard, or a call without an argument. -/
theorem ofText_kept (h : Kept s) :
    ofText s = .wildcard s ∨ ∃ function, s = function ++ ['(', ')'] ∧ ofText s = .call function [] := by
  cases h with
  | star front => exact .inl (ofText_star front)
  | @count front rest first =>
    left
    by_cases star : ['*'] <:+ front ++ '(' :: '*' :: ')' :: rest
    · exact if_pos star
    · rw [ofText_bracket first _ star]
      exact if_pos ⟨rest, rfl⟩
  | @noArgument function first =>
    exact .inr ⟨function, rfl, ofText_call ⟨by simp, first, List.not_mem_nil, List.not_mem_nil⟩⟩

/-- The fields that are not kept are calls with an argument, or the direction at their end decides. -/
theorem ofText_of_not_kept (h : ¬ Kept s) :
    (∃ function argument, IsCall s function argument ∧ argument ≠ []) ∨
      (∀ function argument, ¬ IsCall s function argument) ∧ ofText s = ofDirection s := by
  have noStar : ¬ ['*'] <:+ s := by
    rintro ⟨front, rfl⟩
    exact h (.star front)
  by_cases hcall : ∃ function argument, IsCall s function argument
  · obtain ⟨function, argument, call⟩ := hcall
    refine .inl ⟨function, argument, call, ?_⟩
    rintro rfl
    obtain ⟨rfl, first, -, -⟩ := call
    exact h (by simpa using Kept.noArgument first)
  · have noCall : ∀ function argument, ¬ IsCall s function argument :=
      fun function argument call => hcall ⟨function, argument, call⟩
    refine .inr ⟨noCall, ?_⟩
    rcases Text.splitAtFirst_cases '(' s with ⟨-, hsplit⟩ | ⟨front, rest, first, rfl, -⟩
    · rw [ofText, if_neg noStar, hsplit]
    · have noCount : ¬ ['*', ')'] <+: rest := by
        rintro ⟨rest, rfl⟩
        exact h (.count rest first)
      rw [ofText_bracket first rest noStar, if_neg noCount]
      split
      · next argument hdrop =>
        obtain rfl := Text.eq_of_dropSuffix? hdrop
        refine if_neg ?_
        rintro ⟨hstar, hclosed⟩
        exact noCall front argument ⟨by simp, first, hstar, hclosed⟩
      · rfl

end Shapes

/-! ## Directions -/

/-- A direction is one word after a blank. -/
theorem mem_directions_iff {after : List Char} : after ∈ directions ↔
    ∃ word, after = ' ' :: word ∧ (word = "DESC".toList ∨ word = "ASC".toList) := by
  constructor
  · intro h
    rcases List.mem_cons.mp h with rfl | h
    · exact ⟨_, rfl, .inl rfl⟩
    · obtain rfl := List.mem_singleton.mp h
      exact ⟨_, rfl, .inr rfl⟩
  · rintro ⟨_, rfl, rfl | rfl⟩
    · exact List.mem_cons_self
    · exact List.mem_cons_of_mem _ List.mem_cons_self

theorem blank_not_mem_word {word : List Char} (h : word = "DESC".toList ∨ word = "ASC".toList) :
    ' ' ∉ word := by
  rcases h with rfl | rfl <;> decide

/-- Without a call, an expression is quoted up to its direction, and else as a whole. -/
theorem exists_quotes_of_ofDirection {s : List Char}
    (noCall : ∀ function argument, ¬ IsCall s function argument) :
    ∃ part after, Quotes [] part after ∧ s = part ++ after ∧
      (ofDirection s).render inBackticks = inBackticks part ++ after := by
  by_cases directed : ∃ after ∈ directions, after <:+ s
  · obtain ⟨after, hafter, part, rfl⟩ := directed
    refine ⟨part, after, .directed hafter, rfl, ?_⟩
    obtain ⟨word, rfl, hword⟩ := mem_directions_iff.mp hafter
    rw [ofDirection, Text.splitAtLast?_append (blank_not_mem_word hword)]
    dsimp only
    rw [if_pos hword]
    rfl
  · have undirected : ∀ after ∈ directions, ¬ after <:+ s :=
      fun after hafter hsuffix => directed ⟨after, hafter, hsuffix⟩
    refine ⟨s, [], .whole undirected noCall, (List.append_nil s).symm, ?_⟩
    have plain : ofDirection s = .plain s := by
      unfold ofDirection
      split
      · next expr word hsplit =>
        obtain ⟨rfl, -⟩ := Text.eq_of_splitAtLast? hsplit
        refine if_neg fun hword => ?_
        exact undirected _ (mem_directions_iff.mpr ⟨word, rfl, hword⟩) (List.suffix_append expr _)
      · rfl
    rw [plain, List.append_nil]
    rfl

/-! ## Rendering -/

theorem render_of_kept {s : List Char} (h : Kept s) : (ofText s).render inBackticks = s := by
  rcases ofText_kept h with hwild | ⟨function, rfl, hcall⟩
  · rw [hwild]
    rfl
  · rw [hcall, render, if_pos rfl]
    simp

/-- A field that is not kept gets one pair of backticks. -/
theorem exists_quotes_of_not_kept {s : List Char} (h : ¬ Kept s) :
    ∃ before part after, Quotes before part after ∧ s = before ++ part ++ after ∧
      (ofText s).render inBackticks = before ++ inBackticks part ++ after := by
  rcases ofText_of_not_kept h with ⟨function, argument, call, hne⟩ | ⟨noCall, hshape⟩
  · obtain rfl := call.text
    refine ⟨function ++ ['('], argument, [')'], .argument call hne, by simp, ?_⟩
    rw [ofText_call call, render, if_neg hne]
    simp
  · obtain ⟨part, after, quotes, hs, hrender⟩ := exists_quotes_of_ofDirection noCall
    exact ⟨[], part, after, quotes, hs, by rw [hshape, hrender]; rfl⟩

/-- Quoting a part adds two backticks and nothing else. -/
theorem unquoted_inBackticks (before part after : List Char) :
    unquoted (before ++ inBackticks part ++ after) = unquoted (before ++ part ++ after) := by
  simp [unquoted, inBackticks]

theorem length_inBackticks (before part after : List Char) :
    (before ++ inBackticks part ++ after).length = (before ++ part ++ after).length + 2 := by
  simp only [inBackticks, List.length_append, List.length_cons, List.length_nil]
  omega

/-- Without backticks, the rendered text is the field. -/
theorem unquoted_render (s : List Char) : unquoted ((ofText s).render inBackticks) = unquoted s := by
  by_cases h : Kept s
  · rw [render_of_kept h]
  · obtain ⟨before, part, after, -, hs, hrender⟩ := exists_quotes_of_not_kept h
    rw [hrender, unquoted_inBackticks, ← hs]

theorem render_eq_self_iff {s : List Char} : (ofText s).render inBackticks = s ↔ Kept s := by
  constructor
  · intro heq
    by_contra h
    obtain ⟨before, part, after, -, hs, hrender⟩ := exists_quotes_of_not_kept h
    have longer := length_inBackticks before part after
    rw [← hrender, heq, ← hs] at longer
    omega
  · exact render_of_kept

theorem unquoted_of_not_mem {s : List Char} (h : '`' ∉ s) : unquoted s = s := by
  rw [unquoted, List.filter_eq_self]
  intro c hc
  rw [decide_eq_true_eq]
  rintro rfl
  exact h hc

end SqlMapper.Sql.FieldExpr

namespace SqlMapper.Dialect

open Sql.FieldExpr

/-! ## Fields of statements -/

theorem toList_fieldName (field : String) :
    (mysql.fieldName field).toList = (ofText field.toList).render inBackticks :=
  String.toList_ofList

/-- **Only quotes are added to a field.** For every text that is given as a field expression:

    * without backticks, the rendered field is the field without its own;
    * it is the field itself exactly if the field ends in a star, has a star alone in its first
      brackets, or calls a function without an argument;
    * otherwise one pair of backticks is added: around the argument of a call, around an expression
      with a direction, or around the whole field if it is neither;
    * so fields without backticks that are rendered alike are the same. -/
theorem fieldName_quotes_only (field : String) :
    unquoted (mysql.fieldName field).toList = unquoted field.toList ∧
    (mysql.fieldName field = field ↔ Kept field.toList) ∧
    (¬ Kept field.toList → ∃ before part after, Quotes before part after ∧
      field.toList = before ++ part ++ after ∧
      (mysql.fieldName field).toList = before ++ inBackticks part ++ after) ∧
    ∀ other : String, '`' ∉ field.toList → '`' ∉ other.toList →
      mysql.fieldName field = mysql.fieldName other → field = other := by
  refine ⟨?_, ?_, ?_, ?_⟩
  · rw [toList_fieldName, unquoted_render]
  · rw [← String.toList_inj, toList_fieldName, render_eq_self_iff]
  · intro h
    obtain ⟨before, part, after, quotes, hs, hrender⟩ := exists_quotes_of_not_kept h
    exact ⟨before, part, after, quotes, hs, by rw [toList_fieldName, hrender]⟩
  · intro other hfield hother same
    have hunquoted : unquoted field.toList = unquoted other.toList := by
      rw [← unquoted_render field.toList, ← unquoted_render other.toList, ← toList_fieldName,
        ← toList_fieldName, same]
    rw [unquoted_of_not_mem hfield, unquoted_of_not_mem hother] at hunquoted
    exact String.toList_inj.mp hunquoted

/-- A call inside a call: the brackets do not make it one, and it is quoted up to its direction. -/
theorem fieldName_quotes_nestedCall : mysql.fieldName "max(abs(x)) DESC" = "`max(abs(x))` DESC" ∧
    (∃ before part after, Quotes before part after ∧
      "max(abs(x)) DESC".toList = before ++ part ++ after ∧
      "`max(abs(x))` DESC".toList = before ++ inBackticks part ++ after) ∧
    ∀ other : String, '`' ∉ other.toList → mysql.fieldName other = "`max(abs(x))` DESC" →
      other = "max(abs(x)) DESC" := by
  have rendered : mysql.fieldName "max(abs(x)) DESC" = "`max(abs(x))` DESC" := by decide
  obtain ⟨-, kept, quoted, injective⟩ := fieldName_quotes_only "max(abs(x)) DESC"
  refine ⟨rendered, ?_, ?_⟩
  · rw [rendered] at quoted
    refine quoted fun h => ?_
    exact absurd (kept.mpr h) (by rw [rendered]; decide)
  · intro other hother same
    exact (injective other (by decide) hother (rendered.trans same.symm)).symm

end SqlMapper.Dialect
