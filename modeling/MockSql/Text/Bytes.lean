/-
# Bytes as text

Bytes are read as characters of one to four bytes. Where they are no character, the replacement
character stands for the bytes up to the first one that does not fit, and reading goes on there.
-/

namespace MockSql.Text

/-- A character of which bytes are still missing: how many, the bits so far, and the least and the
greatest byte that may come next. -/
structure Unfinished where
  missing : Nat
  bits : Nat
  least : Nat
  greatest : Nat
deriving DecidableEq, Repr

/-- The character that stands for bytes that are none. -/
def replacement : Char := '\ufffd'

/-- The character of several bytes that begins with a byte. The bounds of the second byte keep out
what could be written shorter, the surrogates, and what is too great for a character. -/
def Unfinished.ofFirst? (byte : Nat) : Option Unfinished :=
  if 0xc2 ≤ byte && byte ≤ 0xdf then some ⟨1, byte - 0xc0, 0x80, 0xbf⟩
  else if 0xe0 ≤ byte && byte ≤ 0xef then
    some ⟨2, byte - 0xe0, if byte = 0xe0 then 0xa0 else 0x80, if byte = 0xed then 0x9f else 0xbf⟩
  else if 0xf0 ≤ byte && byte ≤ 0xf4 then
    some ⟨3, byte - 0xf0, if byte = 0xf0 then 0x90 else 0x80, if byte = 0xf4 then 0x8f else 0xbf⟩
  else none

/-- What a byte gives where no character is unfinished: a character, or the beginning of one. -/
def readFirst (byte : Nat) : List Char × Option Unfinished :=
  if byte < 0x80 then ([Char.ofNat byte], none)
  else
    match Unfinished.ofFirst? byte with
    | some unfinished => ([], some unfinished)
    | none => ([replacement], none)

/-- What a byte gives after those before it. -/
def readByte (before : Option Unfinished) (byte : Nat) : List Char × Option Unfinished :=
  match before with
  | none => readFirst byte
  | some ⟨missing, bits, least, greatest⟩ =>
    if least ≤ byte && byte ≤ greatest then
      let bits := bits * 64 + (byte - 0x80)
      if missing = 1 then ([Char.ofNat bits], none)
      else ([], some ⟨missing - 1, bits, 0x80, 0xbf⟩)
    else
      let (chars, after) := readFirst byte
      (replacement :: chars, after)

/-- What the end of the bytes gives. -/
def readEnd : Option Unfinished → List Char
  | none => []
  | some _ => [replacement]

end MockSql.Text
