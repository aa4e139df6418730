/-
# Trimming

What surrounds a statement, a literal or a name and does not belong to it: white space around
everything, quoting marks around names.
-/

import MockSql.Text.Blank

namespace MockSql.Text

/-- A text without the characters of a class at its end. -/
def dropWhileEnd (isOuter : Char → Bool) (text : List Char) : List Char :=
  (text.reverse.dropWhile isOuter).reverse

/-- A text without the characters of a class at its two ends. -/
def stripWhile (isOuter : Char → Bool) (text : List Char) : List Char :=
  dropWhileEnd isOuter (text.dropWhile isOuter)

/-- A text without leading white space. -/
def trimStart (text : List Char) : List Char :=
  text.dropWhile isBlank

/-- A text without trailing white space. -/
def trimEnd (text : List Char) : List Char :=
  dropWhileEnd isBlank text

/-- A text without white space around it. -/
def trim (text : List Char) : List Char :=
  stripWhile isBlank text

/-- The mark that may stand before and after a name. -/
def nameMark : Char := '\x60'

/-- A listed name without the white space around it and then without the marks. -/
def bareName (text : List Char) : List Char :=
  stripWhile (· == nameMark) (trim text)

end MockSql.Text
