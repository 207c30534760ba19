/-!
# Splitting and joining texts

* `splitOn`: the parts of a text between separators, the empty ones too.
* `splitAtFirst`, `splitAtLast?`: the two parts around one separator.
* `joinWith`: the inverse of splitting.
* `joinWith_splitOn`: nothing is lost by splitting.
-/

namespace SqlMapper.Text

/-- The parts of a text between the characters `sep`. -/
def splitOn (sep : Char) : List Char → List (List Char)
  | [] => [[]]
  | c :: rest =>
    if c = sep then [] :: splitOn sep rest
    else match splitOn sep rest with
      | part :: parts => (c :: part) :: parts
      | [] => [[c]]

/-- The parts with `sep` between. -/
def joinWith (sep : List Char) : List (List Char) → List Char
  | [] => []
  | [part] => part
  | part :: next :: parts => part ++ sep ++ joinWith sep (next :: parts)

/-- The part before the first `sep` and the part after it, if there is one. -/
def splitAtFirst (sep : Char) (s : List Char) : List Char × Option (List Char) :=
  (s.takeWhile (· != sep), (s.dropWhile (· != sep)).tail?)

/-- The part before the last `sep` and the part after it. -/
def splitAtLast? (sep : Char) (s : List Char) : Option (List Char × List Char) :=
  if sep ∈ s then
    some (((s.reverse.dropWhile (· != sep)).drop 1).reverse,
      (s.reverse.takeWhile (· != sep)).reverse)
  else none

/-- The part before an ending. -/
def dropSuffix? (ending s : List Char) : Option (List Char) :=
  if ending <:+ s then some (s.take (s.length - ending.length)) else none

/-- The part after a beginning. -/
def dropPrefix? (start s : List Char) : Option (List Char) :=
  if start <+: s then some (s.drop start.length) else none

/-- Whether a text occurs in another. -/
def hasInfix (part : List Char) : List Char → Bool
  | [] => part.isEmpty
  | c :: rest => part.isPrefixOf (c :: rest) || hasInfix part rest

/-- A text with every `old` replaced by `new`. -/
def replaceChar (old : Char) (new : List Char) (s : List Char) : List Char :=
  s.flatMap fun c => if c = old then new else [c]

theorem splitOn_ne_nil (sep : Char) (s : List Char) : splitOn sep s ≠ [] := by
  induction s with
  | nil => simp [splitOn]
  | cons c rest ih =>
    simp only [splitOn]
    split
    · simp
    · split <;> simp

/-- A character before the first part stands before the joined text. -/
theorem joinWith_cons_head (sep : List Char) (c : Char) (part : List Char)
    (parts : List (List Char)) :
    joinWith sep ((c :: part) :: parts) = c :: joinWith sep (part :: parts) := by
  cases parts <;> rfl

/-- Nothing is lost by splitting. -/
theorem joinWith_splitOn (sep : Char) (s : List Char) : joinWith [sep] (splitOn sep s) = s := by
  induction s with
  | nil => rfl
  | cons c rest ih =>
    cases hs : splitOn sep rest with
    | nil => exact absurd hs (splitOn_ne_nil sep rest)
    | cons part parts =>
      rw [hs] at ih
      by_cases h : c = sep
      · simp [splitOn, h, hs, joinWith, ih]
      · simp [splitOn, h, hs, joinWith_cons_head, ih]

end SqlMapper.Text
