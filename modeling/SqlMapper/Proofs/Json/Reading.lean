import Mathlib.Data.List.TakeWhile
import SqlMapper.Json.Basic
import SqlMapper.Json.Reader

/-!
# JSON text read back

What is written as JSON is read back as it was: strings of any characters, truth values, arrays and objects
whose members a reader knows. A reader takes exactly what was written, whatever follows it.

* `Reads`: a reader takes a text for a value.
* `reads_string`: strings, with all escapes.
* `reads_list`: arrays, element by element.
* `Gathers`, `reads_object`: objects, member by member.
-/

namespace SqlMapper.Json.Reader

variable {α β σ : Type} {s rest : List Char} {c : Char}

/-- The reader takes the text for the value, whatever follows it. -/
def Reads (r : Reader α) (text : List Char) (a : α) : Prop := ∀ rest, r (text ++ rest) = .ok (a, rest)

/-! ## Steps of a reader -/

/-- One reader after the other. -/
theorem bind_ok {r : Reader α} {f : α → Reader β} {a : α} (h : r s = .ok (a, rest)) :
    (r >>= f) s = f a rest := by
  show (r s >>= fun p => f p.1 p.2) = f a rest
  rw [h]
  rfl

theorem get_eq : (get : Reader (List Char)) s = .ok (s, s) := rfl

theorem peekSome_cons (h : isSpace c = false) : peekSome (c :: s) = .ok (c, c :: s) := by
  have hpeek : peek (c :: s) = .ok (some c, c :: s) := by
    rw [peek, List.dropWhile_cons_of_neg (by simp [h])]
    rfl
  rw [peekSome, bind_ok hpeek]
  rfl

theorem skip_cons : skip (c :: s) = .ok ((), s) := rfl

theorem reads_word (cs : List Char) : Reads (word cs) cs () := by
  intro rest
  induction cs with
  | nil => rfl
  | cons c cs ih => exact (if_pos rfl).trans ih

theorem Reads.map {r : Reader α} {text : List Char} {a : α} (h : Reads r text a) (f : α → β) :
    Reads (f <$> r) text (f a) := by
  intro rest
  show (r (text ++ rest) >>= fun p => pure (f p.1, p.2)) = _
  rw [h]
  rfl

/-! ## Strings -/

theorem hexValue?_hexDigit_lower : ∀ n < 16, Bytes.hexValue? (Bytes.hexDigit false n) = some n := by
  decide

/-- A character escaped by its number, if that is small. -/
theorem reads_numberEscape (h : c.toNat < 32) :
    Reads numberEscape
      ['0', '0', Bytes.hexDigit false (c.toNat / 16), Bytes.hexDigit false (c.toNat % 16)] c := by
  intro rest
  have zero : Bytes.hexValue? '0' = some 0 := by decide
  have high := hexValue?_hexDigit_lower (c.toNat / 16) (by omega)
  have low := hexValue?_hexDigit_lower (c.toNat % 16) (Nat.mod_lt _ (by decide))
  have hdigits : hex4 (['0', '0', Bytes.hexDigit false (c.toNat / 16),
      Bytes.hexDigit false (c.toNat % 16)] ++ rest) = .ok (c.toNat, rest) := by
    simp only [List.cons_append, List.nil_append, hex4, zero, high, low]
    congr 2
    omega
  rw [numberEscape, bind_ok hdigits, if_neg (by omega), if_neg (by omega), Char.ofNat_toNat]
  rfl

/-- A character that needs no escape. -/
theorem stringChar_plain (hq : c ≠ '"') (hb : c ≠ '\\') (h : ¬ c.toNat < 32) :
    stringChar (c :: rest) = .ok (some c, rest) := by
  rw [stringChar.eq_def]
  split
  all_goals simp_all

/-- Every character is read back from what is written for it. -/
theorem stringChar_escaped (c : Char) (rest : List Char) :
    stringChar (escaped c ++ rest) = .ok (some c, rest) := by
  unfold escaped
  split_ifs with hq hb hn hr ht h8 h12 hsmall
  · rw [hq]; rfl
  · rw [hb]; rfl
  · rw [hn]; rfl
  · rw [hr]; rfl
  · rw [ht]; rfl
  · rw [← Char.ofNat_toNat c, h8]; rfl
  · rw [← Char.ofNat_toNat c, h12]; rfl
  · exact (reads_numberEscape hsmall).map some rest
  · exact stringChar_plain hq hb hsmall

/-- The rest of a string, given a step for each character and one for the end. -/
theorem stringBody_escaped (cs rest : List Char) {fuel : Nat} (enough : cs.length < fuel) :
    stringBody fuel (cs.flatMap escaped ++ '"' :: rest) = .ok (cs, rest) := by
  induction fuel generalizing cs with
  | zero => exact absurd enough (Nat.not_lt_zero _)
  | succ fuel ih =>
    cases cs with
    | nil =>
      have hend : stringChar ('"' :: rest) = .ok (none, rest) := rfl
      exact bind_ok hend
    | cons c cs =>
      rw [List.flatMap_cons, List.append_assoc, stringBody, bind_ok (stringChar_escaped c _)]
      show (stringBody fuel >>= _) _ = _
      rw [bind_ok (ih cs (Nat.lt_of_succ_lt_succ enough))]
      rfl

theorem escaped_ne_nil (c : Char) : escaped c ≠ [] := by
  unfold escaped
  split_ifs
  all_goals simp

/-- What is written for each of some things takes at least as much room as they are many. -/
theorem length_le_length_flatMap {f : α → List Char} (l : List α) (h : ∀ a, f a ≠ []) :
    l.length ≤ (l.flatMap f).length := by
  induction l with
  | nil => exact Nat.le_refl 0
  | cons a l ih =>
    have := List.length_pos_iff.mpr (h a)
    rw [List.flatMap_cons, List.length_append, List.length_cons]
    omega

/-- The same where all but the first are written after a comma. -/
theorem length_le_length_commas (f : α → List Char) (a : α) (l : List α) :
    (a :: l).length ≤ (f a ++ l.flatMap fun b => ',' :: f b).length + 1 := by
  have := length_le_length_flatMap l (f := fun b => ',' :: f b) fun b => List.cons_ne_nil _ _
  rw [List.length_append, List.length_cons]
  omega

theorem openString_quoted (x : String) (rest : List Char) :
    openString (x.toList.flatMap escaped ++ '"' :: rest) = .ok (x, rest) := by
  have enough : x.toList.length < (x.toList.flatMap escaped ++ '"' :: rest).length + 1 := by
    have := length_le_length_flatMap x.toList escaped_ne_nil
    rw [List.length_append]
    omega
  rw [openString, bind_ok get_eq, bind_ok (stringBody_escaped x.toList rest enough), String.ofList_toList]
  rfl

theorem quote_append (x : String) (rest : List Char) :
    quote x ++ rest = '"' :: (x.toList.flatMap escaped ++ '"' :: rest) := by
  simp [quote]

theorem reads_string (x : String) : Reads string (quote x) x := by
  intro rest
  rw [quote_append, string, bind_ok (peekSome_cons (by decide))]
  show (skip >>= fun _ => openString) _ = _
  rw [bind_ok skip_cons, openString_quoted]

/-! ## Truth values, and values that may be null -/

/-- A word whose first letter has been seen already. -/
theorem skip_word (cs rest : List Char) (a : α) :
    (skip >>= fun _ => word cs >>= fun _ => pure a : Reader α) (c :: (cs ++ rest)) = .ok (a, rest) := by
  rw [bind_ok skip_cons, bind_ok (reads_word cs rest)]
  rfl

theorem reads_bool (b : Bool) : Reads bool (compact (.bool b)) b := by
  intro rest
  cases b with
  | true =>
    rw [compact, List.cons_append, bool, bind_ok (peekSome_cons (by decide)), if_pos rfl]
    exact skip_word ['r', 'u', 'e'] rest true
  | false =>
    rw [compact, List.cons_append, bool, bind_ok (peekSome_cons (by decide)), if_neg (by decide), if_pos rfl]
    exact skip_word ['a', 'l', 's', 'e'] rest false

/-- A value whose text does not begin like a null. -/
theorem Reads.optional {r : Reader α} {text : List Char} {a : α} (h : Reads r (c :: text) a)
    (hspace : isSpace c = false) (hnull : c ≠ 'n') : Reads (optional r) (c :: text) (some a) := by
  intro rest
  have hpeek : peek (c :: text ++ rest) = .ok (some c, c :: text ++ rest) := by
    rw [List.cons_append, peek, List.dropWhile_cons_of_neg (by simp [hspace])]
    rfl
  rw [Reader.optional, bind_ok hpeek, if_neg (by simpa using hnull)]
  exact h.map some rest

/-! ## Arrays -/

/-- A text that can be an element: it begins neither with a blank nor with the end of the array. -/
def IsElement (text : List Char) : Prop := ∃ c cs, text = c :: cs ∧ isSpace c = false ∧ c ≠ ']'

theorem compactItems_cons (x : Json) (l : List Json) :
    compactItems (x :: l) = compact x ++ l.flatMap fun y => ',' :: compact y := by
  induction l generalizing x with
  | nil => simp [compactItems]
  | cons y l ih => rw [compactItems, ih, List.flatMap_cons, List.cons_append]

theorem length_le_compactItems (l : List Json) : l.length ≤ (compactItems l).length + 1 := by
  cases l with
  | nil => exact Nat.zero_le _
  | cons x l =>
    rw [compactItems_cons]
    exact length_le_length_commas compact x l

theorem hasItem_end (first : Bool) : hasItem first (']' :: s) = .ok (false, ']' :: s) :=
  bind_ok (peekSome_cons (by decide))

theorem hasItem_first {text : List Char} (h : IsElement text) :
    hasItem true (text ++ s) = .ok (true, text ++ s) := by
  obtain ⟨c, cs, rfl, hspace, hend⟩ := h
  rw [List.cons_append, hasItem, bind_ok (peekSome_cons hspace), if_neg hend]
  rfl

theorem hasItem_next {text : List Char} (h : IsElement text) :
    hasItem false (',' :: (text ++ s)) = .ok (true, text ++ s) := by
  obtain ⟨c, cs, rfl, hspace, hend⟩ := h
  rw [List.cons_append, hasItem, bind_ok (peekSome_cons (by decide))]
  show (skip >>= fun _ => peekSome >>= fun d =>
    if d = ']' then throw .syntaxFault else pure true) _ = _
  rw [bind_ok skip_cons, bind_ok (peekSome_cons hspace), if_neg hend]
  rfl

section Arrays

variable {r : Reader α} {write : α → Json}

theorem items_end (first : Bool) (fuel : Nat) : items r (fuel + 1) first (']' :: s) = .ok ([], ']' :: s) :=
  bind_ok (hasItem_end first)

theorem items_item {first : Bool} {fuel : Nat} {text : List Char} {a : α} {l : List α} {s' : List Char}
    (there : hasItem first s = .ok (true, text ++ rest)) (reads : Reads r text a)
    (others : items r fuel false rest = .ok (l, s')) : items r (fuel + 1) first s = .ok (a :: l, s') := by
  rw [items, bind_ok there]
  show (r >>= fun x => items r fuel false >>= fun l => pure (x :: l)) _ = _
  rw [bind_ok (reads rest), bind_ok others]
  rfl

/-- The elements after the first one, each with its comma. -/
theorem items_rest (reads : ∀ a, Reads r (compact (write a)) a)
    (element : ∀ a, IsElement (compact (write a))) (l : List α) (rest : List Char) {fuel : Nat}
    (enough : l.length < fuel) :
    items r fuel false ((l.map write).flatMap (fun y => ',' :: compact y) ++ ']' :: rest) =
      .ok (l, ']' :: rest) := by
  induction fuel generalizing l with
  | zero => exact absurd enough (Nat.not_lt_zero _)
  | succ fuel ih =>
    cases l with
    | nil => exact items_end false fuel
    | cons a l =>
      rw [List.map_cons, List.flatMap_cons, List.append_assoc, List.cons_append]
      exact items_item (hasItem_next (element a)) (reads a) (ih l (Nat.lt_of_succ_lt_succ enough))

theorem items_all (reads : ∀ a, Reads r (compact (write a)) a)
    (element : ∀ a, IsElement (compact (write a))) (l : List α) (rest : List Char) {fuel : Nat}
    (enough : l.length < fuel) :
    items r fuel true (compactItems (l.map write) ++ ']' :: rest) = .ok (l, ']' :: rest) := by
  obtain ⟨fuel, rfl⟩ := Nat.exists_eq_add_one_of_ne_zero (Nat.ne_zero_of_lt enough)
  cases l with
  | nil => exact items_end true fuel
  | cons a l =>
    rw [List.map_cons, compactItems_cons, List.append_assoc]
    exact items_item (hasItem_first (element a)) (reads a)
      (items_rest reads element l rest (Nat.lt_of_succ_lt_succ enough))

/-- An array is read element by element. -/
theorem reads_list (reads : ∀ a, Reads r (compact (write a)) a)
    (element : ∀ a, IsElement (compact (write a))) (l : List α) :
    Reads (list r) (compact (.array (l.map write))) l := by
  intro rest
  have enough : l.length < (compactItems (l.map write) ++ ']' :: rest).length + 1 := by
    have := length_le_compactItems (l.map write)
    rw [List.length_map] at this
    rw [List.length_append, List.length_cons]
    omega
  have written : compact (.array (l.map write)) ++ rest =
      '[' :: (compactItems (l.map write) ++ ']' :: rest) := by
    simp [compact]
  have hend : endArray (']' :: rest) = .ok ((), rest) := bind_ok (peekSome_cons (by decide))
  rw [written, list, bind_ok (peekSome_cons (by decide)), if_pos rfl, bind_ok skip_cons, bind_ok get_eq,
    bind_ok (items_all reads element l rest enough), bind_ok hend]
  rfl

end Arrays

theorem isElement_string (x : String) : IsElement (compact (.string x)) :=
  ⟨'"', _, rfl, by decide, by decide⟩

theorem isElement_object (l : List (String × Json)) : IsElement (compact (.object l)) :=
  ⟨'{', _, rfl, by decide, by decide⟩

theorem reads_strings (l : List String) : Reads (list string) (compact (strings l)) l :=
  reads_list reads_string isElement_string l

/-! ## Objects -/

/-- The text of a member. -/
def memberText (m : String × Json) : List Char := quote m.1 ++ ':' :: compact m.2

theorem compactMembers_cons (m : String × Json) (l : List (String × Json)) :
    compactMembers (m :: l) = memberText m ++ l.flatMap fun y => ',' :: memberText y := by
  induction l generalizing m with
  | nil => simp [compactMembers, memberText]
  | cons y l ih => simp [compactMembers, ih, memberText]

theorem length_le_compactMembers (l : List (String × Json)) : l.length ≤ (compactMembers l).length + 1 := by
  cases l with
  | nil => exact Nat.zero_le _
  | cons m l =>
    rw [compactMembers_cons]
    exact length_le_length_commas memberText m l

theorem memberName_end (first : Bool) : memberName first ('}' :: s) = .ok (none, '}' :: s) :=
  bind_ok (peekSome_cons (by decide))

/-- The name of a member, where one has to follow. -/
theorem reads_name (name : String) :
    Reads (do
      let c ← peekSome
      if c = '"' then skip >>= fun _ => some <$> openString else throw .syntaxFault)
      (quote name) (some name) := by
  intro rest
  have rest_read : (some <$> openString) (name.toList.flatMap escaped ++ '"' :: rest) =
      .ok (some name, rest) := by
    show (openString _ >>= fun p => pure (some p.1, p.2)) = _
    rw [openString_quoted]
    rfl
  rw [quote_append, bind_ok (peekSome_cons (by decide)), if_pos rfl, bind_ok skip_cons, rest_read]

theorem memberName_first (name : String) : memberName true (quote name ++ s) = .ok (some name, s) := by
  rw [memberName, quote_append, bind_ok (peekSome_cons (by decide)), ← quote_append]
  exact reads_name name s

theorem memberName_next (name : String) :
    memberName false (',' :: (quote name ++ s)) = .ok (some name, s) := by
  rw [memberName, bind_ok (peekSome_cons (by decide))]
  exact (bind_ok skip_cons).trans (reads_name name s)

/-- Members that a reader knows, which one after the other bring what it has read from one state to
    another. -/
inductive Gathers (member : σ → String → Member σ) : σ → List (String × Json) → σ → Prop where
  | nil {acc : σ} : Gathers member acc [] acc
  | cons {acc acc' acc'' : σ} {name : String} {value : Json} {r : Reader σ} {l : List (String × Json)}
    (known : member acc name = .known r) (reads : Reads r (compact value) acc')
    (others : Gathers member acc' l acc'') : Gathers member acc ((name, value) :: l) acc''

section Objects

variable {member : σ → String → Member σ} {acc acc' acc'' : σ} {l l' : List (String × Json)}

theorem Gathers.append {a b c : σ} (h : Gathers member a l b) (h' : Gathers member b l' c) :
    Gathers member a (l ++ l') c := by
  induction h with
  | nil => exact h'
  | cons known reads others ih => exact .cons known reads (ih h')

theorem members_end (first : Bool) (fuel : Nat) (acc : σ) :
    members member (fuel + 1) first acc ('}' :: s) = .ok (acc, '}' :: s) :=
  bind_ok (memberName_end first)

theorem members_member {first : Bool} {fuel : Nat} {name : String} {value : Json} {r : Reader σ}
    {s' : List Char} (there : memberName first s = .ok (some name, ':' :: (compact value ++ rest)))
    (known : member acc name = .known r) (reads : Reads r (compact value) acc')
    (others : members member fuel false acc' rest = .ok (acc'', s')) :
    members member (fuel + 1) first acc s = .ok (acc'', s') := by
  have hcolon : colon (':' :: (compact value ++ rest)) = .ok ((), compact value ++ rest) :=
    bind_ok (peekSome_cons (by decide))
  rw [members, bind_ok there]
  simp only [known]
  rw [bind_ok hcolon, bind_ok (reads rest), others]

/-- The members after the first one, each with its comma. -/
theorem members_rest (h : Gathers member acc l acc') (rest : List Char) {fuel : Nat}
    (enough : l.length < fuel) :
    members member fuel false acc (l.flatMap (fun m => ',' :: memberText m) ++ '}' :: rest) =
      .ok (acc', '}' :: rest) := by
  induction h generalizing fuel with
  | nil =>
    obtain ⟨fuel, rfl⟩ := Nat.exists_eq_add_one_of_ne_zero (Nat.ne_zero_of_lt enough)
    exact members_end false fuel _
  | cons known reads others ih =>
    obtain ⟨fuel, rfl⟩ := Nat.exists_eq_add_one_of_ne_zero (Nat.ne_zero_of_lt enough)
    refine members_member ?_ known reads (ih (Nat.lt_of_succ_lt_succ enough))
    simpa [memberText] using memberName_next _

theorem members_all (h : Gathers member acc l acc') (rest : List Char) {fuel : Nat}
    (enough : l.length < fuel) :
    members member fuel true acc (compactMembers l ++ '}' :: rest) = .ok (acc', '}' :: rest) := by
  obtain ⟨fuel, rfl⟩ := Nat.exists_eq_add_one_of_ne_zero (Nat.ne_zero_of_lt enough)
  cases h with
  | nil => exact members_end true fuel _
  | cons known reads others =>
    refine members_member ?_ known reads (members_rest others rest (Nat.lt_of_succ_lt_succ enough))
    simpa [compactMembers_cons, memberText] using memberName_first _

/-- An object is read member by member. -/
theorem reads_object {finish : σ → Option α} {tuple : Reader α} {a : α} (h : Gathers member acc l acc')
    (finished : finish acc' = some a) :
    Reads (object acc member finish tuple) (compact (.object l)) a := by
  intro rest
  have enough : l.length < (compactMembers l ++ '}' :: rest).length + 1 := by
    have := length_le_compactMembers l
    rw [List.length_append, List.length_cons]
    omega
  have written : compact (.object l) ++ rest = '{' :: (compactMembers l ++ '}' :: rest) := by
    simp [compact]
  rw [written, object, bind_ok (peekSome_cons (by decide)), if_pos rfl, bind_ok skip_cons, bind_ok get_eq,
    bind_ok (members_all h rest enough)]
  simp only [finished]
  rfl

end Objects

/-! ## Whole documents -/

theorem whole_of_reads {r : Reader α} {text : List Char} {a : α} (h : Reads r text a) :
    whole r text = .ok a := by
  have ends := h []
  rw [List.append_nil] at ends
  rw [whole, ends]
  rfl

end SqlMapper.Json.Reader
