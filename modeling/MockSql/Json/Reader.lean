/-
# Reading JSON

The JSON of request and reply bodies. Besides the standard grammar the words `NaN`, `Infinity` and
`-Infinity` stand for doubles; a number without fraction and exponent is an integer, which may not
have too many digits; of two members with one name the later counts, in the place of the earlier.

Nesting is bounded by the length of the text, since every level takes at least one character.
-/

import MockSql.Json
import MockSql.Literal

namespace MockSql.Json

open MockSql.Number

/-- Why a text is not taken as JSON. -/
inductive Refusal where
  /-- The text does not follow the grammar. -/
  | malformed
  /-- An integer has too many digits. -/
  | tooLong (fault : Fault)
deriving DecidableEq, Repr

/-- A text after JSON white space. -/
def skipSpace (text : List Char) : List Char :=
  text.dropWhile fun c => c == ' ' || c == '\t' || c == '\n' || c == '\r'

/-- The code unit of four hexadecimal digits, and what follows them. -/
def takeUnit? : List Char → Option (Nat × List Char)
  | a :: b :: c :: d :: rest => do
    let a ← hexValue? a
    let b ← hexValue? b
    let c ← hexValue? c
    let d ← hexValue? d
    some (((a * 16 + b) * 16 + c) * 16 + d, rest)
  | _ => none

/-- The character that a letter after a backslash stands for. -/
def escaped? (c : Char) : Option Char :=
  if c == '\x22' || c == '\\' || c == '/' then some c
  else
    match c with
    | 'b' => some '\x08'
    | 'f' => some '\x0c'
    | 'n' => some '\n'
    | 'r' => some '\r'
    | 't' => some '\t'
    | _ => none

/-- The character of one code unit, or of a pair of surrogates, and what follows it. Half a pair
alone has no character, and the replacement character stands for it. -/
def takeCharacter? (text : List Char) : Option (Char × List Char) := do
  let (unit, rest) ← takeUnit? text
  let pair : Option (Char × List Char) := do
    let afterMark ← match rest with
      | '\\' :: 'u' :: more => some more
      | _ => none
    let (second, after) ← takeUnit? afterMark
    if 0xd800 ≤ unit && unit < 0xdc00 && 0xdc00 ≤ second && second < 0xe000 then
      some (Char.ofNat (0x10000 + (unit - 0xd800) * 0x400 + (second - 0xdc00)), after)
    else none
  some (pair.getD
    (if 0xd800 ≤ unit && unit < 0xe000 then '\ufffd' else Char.ofNat unit, rest))

/-- The content of a string up to its closing quote, and what follows. -/
def readString : Nat → List Char → Except Refusal (List Char × List Char)
  | 0, _ => .error .malformed
  | _ + 1, [] => .error .malformed
  | fuel + 1, '\\' :: 'u' :: rest =>
    match takeCharacter? rest with
    | none => .error .malformed
    | some (c, after) => do
      let (content, rest) ← readString fuel after
      .ok (c :: content, rest)
  | fuel + 1, '\\' :: mark :: rest =>
    match escaped? mark with
    | none => .error .malformed
    | some c => do
      let (content, rest) ← readString fuel rest
      .ok (c :: content, rest)
  | fuel + 1, c :: rest =>
    if c == '\x22' then .ok ([], rest)
    else if c.toNat < 32 || c == '\\' then .error .malformed
    else do
      let (content, rest) ← readString fuel rest
      .ok (c :: content, rest)

/-- The digits of a fraction after a point, if there is one. -/
def takeFraction (text : List Char) : Option (List Char) × List Char :=
  match text with
  | '.' :: rest =>
    let digits := rest.takeWhile Char.isDigit
    if digits.isEmpty then (none, text) else (some digits, rest.dropWhile Char.isDigit)
  | _ => (none, text)

/-- The exponent of a number, if there is one. -/
def takeExponent (text : List Char) : Option Int × List Char :=
  match text with
  | [] => (none, text)
  | mark :: rest =>
    let (negative, after) := takeSign rest
    let digits := after.takeWhile Char.isDigit
    if (mark == 'e' || mark == 'E') && !digits.isEmpty then
      (some (signed negative (ofDigits digits)), after.dropWhile Char.isDigit)
    else (none, text)

/-- A number without its sign. A whole part of several digits does not begin with zero. -/
def readUnsigned (negative : Bool) (text : List Char) : Except Refusal (Json × List Char) :=
  let digits := text.takeWhile Char.isDigit
  let whole := if digits.head? == some '0' then ['0'] else digits
  let rest := text.drop whole.length
  if whole.isEmpty then .error .malformed
  else
    match takeFraction rest with
    | (fraction, afterFraction) =>
      match fraction, takeExponent afterFraction with
      | none, (none, _) =>
        match Literal.readInt negative whole with
        | .ok n => .ok (.int n, rest)
        | .error fault => .error (.tooLong fault)
      | _, (exponent, after) =>
        let places := fraction.getD []
        .ok (.scalar (.double (Double.ofDecimal negative (ofDigits (whole ++ places))
          (exponent.getD 0 - places.length))), after)

/-- The words that are values. -/
def words : List (List Char × Json) := [
  ("null".toList, .null), ("true".toList, .bool true), ("false".toList, .bool false),
  ("NaN".toList, .scalar (.double .nan)),
  ("Infinity".toList, .scalar (.double (.infinite false))),
  ("-Infinity".toList, .scalar (.double (.infinite true)))]

/-- A value that is neither a string nor compound: a word or a number. -/
def readPlain (text : List Char) : Except Refusal (Json × List Char) :=
  match words.find? fun word => word.1.isPrefixOf text with
  | some (word, value) => .ok (value, text.drop word.length)
  | none =>
    match text with
    | '-' :: rest => readUnsigned true rest
    | _ => readUnsigned false text

mutual

/-- A value, and what follows it. -/
def readValue : Nat → List Char → Except Refusal (Json × List Char)
  | 0, _ => .error .malformed
  | fuel + 1, '[' :: rest =>
    match skipSpace rest with
    | ']' :: after => .ok (.array [], after)
    | inside => do
      let (items, after) ← readItems fuel inside
      .ok (.array items, after)
  | fuel + 1, '\x7b' :: rest =>
    match skipSpace rest with
    | '\x7d' :: after => .ok (.object [], after)
    | inside => do
      let (members, after) ← readMembers fuel inside []
      .ok (.object members, after)
  | fuel + 1, c :: rest =>
    if c == '\x22' then do
      let (content, after) ← readString (fuel + 1) rest
      .ok (.text (String.ofList content), after)
    else readPlain (c :: rest)
  | _ + 1, [] => .error .malformed

/-- The items of an array up to its end, at least one. -/
def readItems : Nat → List Char → Except Refusal (List Json × List Char)
  | 0, _ => .error .malformed
  | fuel + 1, text => do
    let (item, rest) ← readValue fuel text
    match skipSpace rest with
    | ']' :: after => .ok ([item], after)
    | ',' :: more => do
      let (items, after) ← readItems fuel (skipSpace more)
      .ok (item :: items, after)
    | _ => .error .malformed

/-- The members of an object up to its end, at least one, after those that were read before. -/
def readMembers : Nat → List Char → Entries Json →
    Except Refusal (Entries Json × List Char)
  | 0, _, _ => .error .malformed
  | fuel + 1, text, before =>
    match text with
    | [] => .error .malformed
    | quote :: rest =>
      if quote == '\x22' then do
        let (name, rest) ← readString (fuel + 1) rest
        match skipSpace rest with
        | ':' :: afterName => do
          let (value, rest) ← readValue fuel (skipSpace afterName)
          let members := before.set (String.ofList name) value
          match skipSpace rest with
          | '\x7d' :: after => .ok (members, after)
          | ',' :: more => readMembers fuel (skipSpace more) members
          | _ => .error .malformed
        | _ => .error .malformed
      else .error .malformed

end

/-- The JSON value that a whole text denotes. -/
def read (text : String) : Except Refusal Json :=
  let chars := text.toList
  match readValue (2 * chars.length + 2) (skipSpace chars) with
  | .error refusal => .error refusal
  | .ok (value, rest) => if (skipSpace rest).isEmpty then .ok value else .error .malformed

end MockSql.Json
