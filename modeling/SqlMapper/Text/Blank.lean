/-!
# Blanks

The white space characters, cutting them off the ends of a text, and the words between them.
-/

namespace SqlMapper.Text

/-- Whether a character is white space. -/
def isBlank (c : Char) : Bool :=
  let n := c.toNat
  (9 ≤ n && n ≤ 13) || n == 32 || n == 0x85 || n == 0xA0 || n == 0x1680 ||
    (0x2000 ≤ n && n ≤ 0x200A) || n == 0x2028 || n == 0x2029 || n == 0x202F || n == 0x205F ||
    n == 0x3000

/-- A text without the blanks before it. -/
def trimStart (s : List Char) : List Char := s.dropWhile isBlank

/-- A text without the blanks after it. -/
def trimEnd (s : List Char) : List Char := (s.reverse.dropWhile isBlank).reverse

/-- A text without the blanks around it. -/
def trim (s : List Char) : List Char := trimEnd (trimStart s)

/-- The first of the words that blanks separate; empty if there is none. -/
def firstWord (s : List Char) : List Char := (trimStart s).takeWhile fun c => !isBlank c

end SqlMapper.Text
