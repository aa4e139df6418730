/-
# Recognising words in a statement

Small recognisers that take something off the front of a text and give what follows: a keyword in
any case, white space, a name, a single character. A recogniser of a phrase is their sequence. A
word found somewhere inside a text has to start where no word character stands before it.
-/

import MockSql.Text.Trim
import MockSql.Text.Word

namespace MockSql.Text

/-- Whether a character is a letter of a keyword in either case. Besides the two ASCII forms, the
long `ſ` stands for `s`, the dotless and the dotted `i` for `i`, and the Kelvin sign for `k`. -/
def isLetter (letter c : Char) : Bool :=
  c == letter || c == letter.toUpper || (letter == 's' && c == 'ſ') ||
    (letter == 'i' && (c == 'ı' || c == 'İ')) || (letter == 'k' && c == '\u212a')

/-- What follows a keyword, given in lower case, at the start of a text. -/
def afterKeyword? : List Char → List Char → Option (List Char)
  | [], text => some text
  | _ :: _, [] => none
  | letter :: word, c :: text => if isLetter letter c then afterKeyword? word text else none

/-- What follows one particular character at the start of a text. -/
def afterChar? (expected : Char) : List Char → Option (List Char)
  | [] => none
  | c :: text => if c == expected then some text else none

/-- What follows white space, at least one character of it, at the start of a text. -/
def afterBlanks? : List Char → Option (List Char)
  | [] => none
  | c :: text => if isBlank c then some (trimStart text) else none

/-- What follows several keywords with white space between them. -/
def afterPhrase? : List String → List Char → Option (List Char)
  | [], text => some text
  | [word], text => afterKeyword? word.toList text
  | word :: next :: words, text =>
    ((afterKeyword? word.toList text).bind afterBlanks?).bind (afterPhrase? (next :: words))

/-- What follows one character that may or may not be there. -/
def skipChar (optional : Char) : List Char → List Char
  | [] => []
  | c :: text => if c == optional then text else c :: text

/-- A run of characters of a class, at least one, and what follows it. -/
def takeRun? (inRun : Char → Bool) (text : List Char) : Option (List Char × List Char) :=
  let run := text.takeWhile inRun
  if run.isEmpty then none else some (run, text.dropWhile inRun)

/-- A name, with or without a mark on either side, and what follows it. -/
def takeName? (text : List Char) : Option (String × List Char) :=
  (takeRun? isWord (skipChar nameMark text)).map fun (run, rest) =>
    (String.ofList run, skipChar nameMark rest)

/-- A name after white space, and what follows it. -/
def takeSpacedName? (text : List Char) : Option (String × List Char) :=
  (afterBlanks? text).bind takeName?

/-- Whether a text starts with a word character. -/
def startsWithWord : List Char → Bool
  | [] => false
  | c :: _ => isWord c

/-- What is recognised at the first place where something is, and where no word character stands
before; the flag says whether one stands before the whole text. -/
def findFrom? {α : Type} (recognise : List Char → Option α) (afterWord : Bool) :
    List Char → Option α
  | [] => if afterWord then none else recognise []
  | c :: text =>
    let here := if afterWord then none else recognise (c :: text)
    here.or (findFrom? recognise (isWord c) text)

/-- What is recognised at the first word of a text where something is. -/
def findWord? {α : Type} (recognise : List Char → Option α) (text : List Char) : Option α :=
  findFrom? recognise false text

/-- Whether a phrase stands somewhere in a text as whole words. -/
def hasPhrase (words : List String) (text : List Char) : Bool :=
  (findWord? (fun rest => (afterPhrase? words rest).filter fun after => !startsWithWord after)
    text).isSome

/-- What is recognised at the first place of a text where something is. -/
def findAnywhere? {α : Type} (recognise : List Char → Option α) : List Char → Option α
  | [] => recognise []
  | c :: text => (recognise (c :: text)).or (findAnywhere? recognise text)

/-- What follows an optional part: what the recogniser leaves if it recognises something, and the
whole text otherwise. -/
def skipOptional (recognise : List Char → Option (List Char)) (text : List Char) : List Char :=
  (recognise text).getD text

/-- A bracket, what stands up to the first closing one, and what follows. -/
def takeBracketed? (text : List Char) : Option (List Char × List Char) := do
  let inside ← afterChar? '(' text
  let after ← afterChar? ')' (inside.dropWhile (· != ')'))
  some (inside.takeWhile (· != ')'), after)

end MockSql.Text
