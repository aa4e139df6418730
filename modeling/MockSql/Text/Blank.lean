/-
# White space

The white space of statements and literals is Unicode's: the ASCII blanks and line breaks, the
four information separators, the next-line and no-break spaces, and the typographic spaces.
-/

import MockSql.Text.Range

namespace MockSql.Text

/-- The runs of white space. -/
def blankRanges : List (Nat × Nat) := [
  (0x9, 0xd), (0x1c, 0x20), (0x85, 0x85), (0xa0, 0xa0), (0x1680, 0x1680), (0x2000, 0x200a),
  (0x2028, 0x2029), (0x202f, 0x202f), (0x205f, 0x205f), (0x3000, 0x3000)]

/-- A white-space character. -/
def isBlank (c : Char) : Bool :=
  inRanges blankRanges c.toNat

end MockSql.Text
