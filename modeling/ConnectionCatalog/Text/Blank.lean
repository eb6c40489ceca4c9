/-! # Text.Blank — blank characters and trimming

The blank characters are the white space of Unicode together with the four
information separators U+001C to U+001F.  `trim` removes them from both ends of
a text and leaves those inside it alone.

Main statement: `trimStart_of_not_blank`; trimming stops at a character that is not blank.
-/

namespace ConnectionCatalog.Text

/-- The blank characters. -/
def isBlank (c : Char) : Bool :=
  let n := c.toNat
  (9 ≤ n && n ≤ 13) || (28 ≤ n && n ≤ 32) || n == 0x85 || n == 0xA0 || n == 0x1680 ||
    (0x2000 ≤ n && n ≤ 0x200A) || n == 0x2028 || n == 0x2029 || n == 0x202F ||
    n == 0x205F || n == 0x3000

/-- White space: the blank characters without the information separators. -/
def isSpace (c : Char) : Bool := isBlank c && !(28 ≤ c.toNat && c.toNat ≤ 31)

/-- Drops the blanks that a text starts with. -/
def trimStart (cs : List Char) : List Char := cs.dropWhile isBlank

/-- Drops the blanks that a text ends with. -/
def trimEnd (cs : List Char) : List Char := (trimStart cs.reverse).reverse

/-- Drops the blanks at both ends of a text. -/
def trim (cs : List Char) : List Char := trimEnd (trimStart cs)

/-- Drops the white space at both ends of a text. -/
def trimSpaces (cs : List Char) : List Char :=
  ((cs.dropWhile isSpace).reverse.dropWhile isSpace).reverse

/-- Trimming stops at the first character that is not blank. -/
theorem trimStart_of_not_blank {c : Char} {cs : List Char} (h : isBlank c = false) :
    trimStart (c :: cs) = c :: cs := by
  simp [trimStart, h]

end ConnectionCatalog.Text
