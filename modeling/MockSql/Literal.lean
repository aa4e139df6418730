/-
# Literals

A literal is a text between two equal quotes, in which a doubled quote stands for one, or a bare
word. A bare word is nothing, a number or itself. The value list of an insertion takes a quoted
text as it is; an assignment and a predicate read a number in quotes as that number.
-/

import MockSql.Text.Case.Upper
import MockSql.Value

namespace MockSql.Literal

open MockSql.Text MockSql.Number

/-- The single quote. -/
def singleQuote : Char := '\x27'

/-- The double quote. -/
def doubleQuote : Char := '\x22'

/-- A character that opens and closes a quoted text. -/
def isQuote (c : Char) : Bool :=
  c == singleQuote || c == doubleQuote

/-- A text with every doubled quote made single, from the left. -/
def mergeQuotes (quote : Char) : List Char → List Char
  | c :: d :: rest =>
    if c == quote && d == quote then quote :: mergeQuotes quote rest
    else c :: mergeQuotes quote (d :: rest)
  | short => short

/-- The content of a literal without white space and quotes around it, and whether there were
quotes. -/
def unquote (literal : List Char) : List Char × Bool :=
  match trim literal with
  | [] => ([], false)
  | first :: rest =>
    if isQuote first && rest.getLast? == some first then (mergeQuotes first rest.dropLast, true)
    else (first :: rest, false)

/-- The integer that a run of digits denotes, unless there are too many. -/
def readInt (negative : Bool) (digits : List Char) : Except Fault Int :=
  if digitLimit < digits.length then .error (.unreadableInteger digits.length)
  else .ok (signed negative (ofDigits digits))

/-- A text without the line break that may end it. -/
def dropFinalBreak (text : List Char) : List Char :=
  if text.getLast? == some '\n' then text.dropLast else text

/-- A text that looks like a number becomes one; any other text stays. One line break at the end
of a number does not count. -/
def coerceNumber (text : List Char) : Except Fault Value :=
  let (negative, unsigned) := takeSign (dropFinalBreak text)
  if !unsigned.isEmpty && unsigned.all isDigit then (readInt negative unsigned).map .int
  else
    match Double.readUnsigned? negative (unsigned.map Double.plainDigit) with
    | some x => .ok (.double x)
    | none => .ok (.text (String.ofList text))

/-- The integer that a text begins with, after white space, if it begins with one. -/
def leadingInt (text : List Char) : Except Fault (Option Int) :=
  let (negative, unsigned) := takeSign (trimStart text)
  let digits := unsigned.takeWhile isDigit
  if digits.isEmpty then .ok none else (readInt negative digits).map some

/-- The word for nothing, in any case. -/
def isNull (word : List Char) : Bool :=
  upper word == "NULL".toList

/-- The value of a literal in a value list. -/
def readInserted (literal : List Char) : Except Fault Value :=
  match unquote literal with
  | (content, true) => .ok (.text (String.ofList content))
  | (content, false) =>
    if content.isEmpty || isNull content then .ok .null else coerceNumber content

/-- The value of a literal in an assignment or a predicate. -/
def readAssigned (literal : List Char) : Except Fault Value :=
  let (content, quoted) := unquote literal
  if !quoted && isNull content then .ok .null else coerceNumber content

end MockSql.Literal
