/-
# The text of a double

A double is written with the fewest digits that read back as the same double, and of those with
the digits nearest to its value. Values from 10^-4 up to 10^16 are written positionally and always
with a fractional part; outside that range the first digit is followed by an exponent that has a
sign and at least two digits.
-/

import MockSql.Number.Double
import MockSql.Number.Natural

namespace MockSql

open MockSql.Number

/-- The number `digits · 10^exponent`. -/
structure Decimal where
  digits : Nat
  exponent : Int
deriving DecidableEq, Repr

namespace Double

/-- How many digits stand before the point of a number of units; zero or less below one tenth. -/
def leadingPlace (units : Nat) : Int :=
  (natDigits (units * Nat.pow 10 400 / unitsPerOne)).length - (400 : Int)

/-- A number of units divided by a power of ten, as a quotient. -/
def unitsOverPower (units : Nat) (exponent : Int) : Nat × Nat :=
  if 0 ≤ exponent then (units, unitsPerOne * Nat.pow 10 exponent.toNat)
  else (units * Nat.pow 10 (-exponent).toNat, unitsPerOne)

/-- Of the two neighbours of a value on the grid of `count`-digit numbers, the one that is read
back as `double`; of two such neighbours the nearer, and of two equally near ones the even. -/
def nearestWithDigits? (double : Double) (units count : Nat) : Option Decimal :=
  let exponent := leadingPlace units - count
  let (numerator, denominator) := unitsOverPower units exponent
  let below := numerator / denominator
  let readsBack (digits : Nat) : Bool := ofDecimal false digits exponent == double
  let nearest := roundQuotient numerator denominator
  if readsBack nearest then some ⟨nearest, exponent⟩
  else if readsBack below then some ⟨below, exponent⟩
  else if readsBack (below + 1) then some ⟨below + 1, exponent⟩
  else none

/-- The shortest decimal of a positive double, given its units. -/
def shortest (double : Double) (units : Nat) : Decimal :=
  ((List.range' 1 17).findSome? (nearestWithDigits? double units)).getD ⟨0, 0⟩

/-- A text without the zeros at its end. -/
def dropTrailingZeros (digits : List Char) : List Char :=
  (digits.reverse.dropWhile (· == '0')).reverse

/-- The sign and digits of an exponent, at least two digits. -/
def exponentText (exponent : Int) : List Char :=
  let digits := natDigits exponent.natAbs
  (if exponent < 0 then '-' else '+') :: (if digits.length < 2 then '0' :: digits else digits)

/-- Significant digits, the first of which stands `place` places before the point, laid out. -/
def layOut (digits : List Char) (place : Int) : List Char :=
  if -4 < place ∧ place ≤ 16 then
    if place ≤ 0 then
      ['0', '.'] ++ List.replicate (-place).toNat '0' ++ digits
    else if digits.length ≤ place.toNat then
      digits ++ List.replicate (place.toNat - digits.length) '0' ++ ['.', '0']
    else digits.take place.toNat ++ '.' :: digits.drop place.toNat
  else
    let fraction := digits.drop 1
    digits.take 1 ++ (if fraction.isEmpty then [] else '.' :: fraction) ++
      'e' :: exponentText (place - 1)

/-- The text of a number of units without its sign. -/
def magnitudeText (double : Double) (units : Nat) : List Char :=
  if units = 0 then ['0', '.', '0']
  else
    let decimal := shortest double units
    let digits := natDigits decimal.digits
    layOut (dropTrailingZeros digits) (digits.length + decimal.exponent)

/-- The text of a double. -/
def toText : Double → List Char
  | .nan => "nan".toList
  | .infinite negative => (if negative then ['-'] else []) ++ "inf".toList
  | .finite negative exponent fraction =>
    (if negative then ['-'] else []) ++
      magnitudeText (.finite false exponent fraction) (magnitude exponent fraction)

end Double

end MockSql
