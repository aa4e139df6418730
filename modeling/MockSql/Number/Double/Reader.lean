/-
# Reading a double

The text of a number is a sign, digits around an optional point, and an optional exponent, or the
word `inf`, `infinity` or `nan` in any case. Digits may be of any script, and a low line may stand
between two digits. White space around the number does not count.
-/

import MockSql.Number.Double
import MockSql.Number.Natural
import MockSql.Text.Trim

namespace MockSql.Double

open MockSql.Text MockSql.Number

/-- A decimal digit of any script as its ASCII counterpart; other characters stay. -/
def plainDigit (c : Char) : Char :=
  match digitValue? c with
  | some value => Char.ofNat (value + 48)
  | none => c

/-- A text without the low lines between its digits, none if a low line stands elsewhere. The
flag says whether a digit precedes the text. -/
def joinDigits (afterDigit : Bool) : List Char → Option (List Char)
  | [] => some []
  | '_' :: c :: rest =>
    if afterDigit && c.isDigit then (joinDigits true rest).map (c :: ·) else none
  | c :: rest => if c == '_' then none else (joinDigits c.isDigit rest).map (c :: ·)

/-- The exponent that ends a number: nothing, or a mark with an optional sign and digits. -/
def readExponent? : List Char → Option Int
  | [] => some 0
  | mark :: rest =>
    let (negative, digits) := takeSign rest
    if (mark == 'e' || mark == 'E') && !digits.isEmpty && digits.all Char.isDigit then
      some (signed negative (ofDigits digits))
    else none

/-- An unsigned number in plain digits: digits, perhaps a point and more digits, at least one digit
in all, and then an exponent. -/
def readUnsigned? (negative : Bool) (text : List Char) : Option Double :=
  let whole := text.takeWhile Char.isDigit
  let afterWhole := text.dropWhile Char.isDigit
  let (fraction, rest) :=
    match afterWhole with
    | '.' :: more => (more.takeWhile Char.isDigit, more.dropWhile Char.isDigit)
    | _ => ([], afterWhole)
  if whole.isEmpty && fraction.isEmpty then none
  else
    (readExponent? rest).map fun exponent =>
      ofDecimal negative (ofDigits (whole ++ fraction)) (exponent - fraction.length)

/-- The words that stand for infinity and for no number, in any case. -/
def readWord? (negative : Bool) (text : List Char) : Option Double :=
  let word := text.map Char.toLower
  if word = "inf".toList ∨ word = "infinity".toList then some (.infinite negative)
  else if word = "nan".toList then some .nan
  else none

/-- The double that a text denotes, if it denotes one. -/
def read? (text : List Char) : Option Double :=
  (joinDigits false ((trim text).map plainDigit)).bind fun plain =>
    let (negative, unsigned) := takeSign plain
    (readUnsigned? negative unsigned).or (readWord? negative unsigned)

end MockSql.Double
