/-!
# Blank characters

What counts as blank when text is trimmed or tested for content: the ASCII blanks, the four
ASCII separators, next line, and the spaces and separators of Unicode. Zero-width characters
are not blank.
-/

namespace Scaffold

namespace Text

/-- A blank character of any script. -/
def isBlank (c : Char) : Bool :=
  let n := c.toNat
  (9 ≤ n && n ≤ 13) || (28 ≤ n && n ≤ 32) || n == 0x85 || n == 0xA0 || n == 0x1680 ||
  (0x2000 ≤ n && n ≤ 0x200A) || n == 0x2028 || n == 0x2029 || n == 0x202F || n == 0x205F ||
  n == 0x3000

/-- The text without the blanks it begins with. -/
def trimStart (s : List Char) : List Char := s.dropWhile isBlank

/-- The text without the blanks it ends with. -/
def trimEnd (s : List Char) : List Char := (s.reverse.dropWhile isBlank).reverse

/-- The text without the blanks at both ends. -/
def trim (s : List Char) : List Char := trimEnd (trimStart s)

/-- Whether the text holds nothing but blanks. -/
def isBlankText (s : List Char) : Bool := s.all isBlank

end Text

end Scaffold
