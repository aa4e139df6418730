/-
# Whole numbers as text

A run of decimal digits of any script is read by place value. Reading an integer has a limit on
the number of its digits, and so has writing one; the limit keeps hostile input cheap.
-/

import MockSql.Text.Digit

namespace MockSql.Number

open MockSql.Text

/-- The greatest number of digits that an integer's text may have. -/
def digitLimit : Nat := 4300

/-- The whole number that a run of digits denotes, after the digits that make `start`. -/
def digitsFrom (start : Nat) (digits : List Char) : Nat :=
  digits.foldl (fun value c => value * 10 + (digitValue? c).getD 0) start

/-- The whole number that a run of digits denotes. -/
def ofDigits (digits : List Char) : Nat :=
  digitsFrom 0 digits

/-- The digits of a whole number, without leading zeros. -/
def natDigits (n : Nat) : List Char :=
  Nat.toDigits 10 n

/-- The digits of an integer, after a minus sign if it is negative. -/
def intDigits (n : Int) : List Char :=
  if n < 0 then '-' :: natDigits n.natAbs else natDigits n.natAbs

/-- Whether an integer has few enough digits to be written. -/
def isPrintable (n : Int) : Bool :=
  (natDigits n.natAbs).length ≤ digitLimit

/-- The worth of a hexadecimal digit. -/
def hexValue? (c : Char) : Option Nat :=
  if c.isDigit then some (c.toNat - 48)
  else if 'a' ≤ c && c ≤ 'f' then some (c.toNat - 87)
  else if 'A' ≤ c && c ≤ 'F' then some (c.toNat - 55)
  else none

/-- A sign before a number, and what follows it. -/
def takeSign : List Char → Bool × List Char
  | '-' :: rest => (true, rest)
  | '+' :: rest => (false, rest)
  | rest => (false, rest)

/-- A whole number with a sign. -/
def signed (negative : Bool) (n : Nat) : Int :=
  if negative then -n else n

end MockSql.Number
