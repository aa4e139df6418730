/-
# Double-precision numbers

A double is one of the 2 · 2047 · 2^52 finite values, an infinity, or not a number. Every finite
double is a whole multiple of the smallest positive one, 2^-1074, so its value is an integer
number of *units*, and comparing doubles with each other and with integers is comparing integers.

A quotient of whole numbers is turned into a double by rounding to the nearest one; of two that
are equally near, the one with the even significand wins, and beyond the largest double lies
infinity.
-/

namespace MockSql

/-- How many fractions there are, 2^52: the significand of a normal double is this and its fraction
together. -/
abbrev fractionCount : Nat := 4503599627370496

/-- A double-precision number, by the fields of its usual layout. -/
inductive Double where
  /-- Not a number. -/
  | nan
  /-- An infinity. -/
  | infinite (negative : Bool)
  /-- A finite value; exponent field zero holds zero and the subnormal numbers. -/
  | finite (negative : Bool) (exponent : Fin 2047) (fraction : Fin fractionCount)
deriving DecidableEq, Repr

namespace Double

/-- How many units of 2^-1074 there are in one. -/
def unitsPerOne : Nat := Nat.pow 2 1074

/-- The absolute value of a finite double in units. -/
def magnitude (exponent : Fin 2047) (fraction : Fin fractionCount) : Nat :=
  if exponent.val = 0 then fraction.val
  else (fractionCount + fraction.val) * Nat.pow 2 (exponent.val - 1)

/-- The double with significand `significand` in steps of `2^shift` units. A significand below
`fractionCount` is meant with step zero only. -/
def ofSignificand (negative : Bool) (significand shift : Nat) : Double :=
  if significand < fractionCount then .finite negative 0 (Fin.ofNat _ significand)
  else if h : shift + 1 < 2047 then
    .finite negative ⟨shift + 1, h⟩ (Fin.ofNat _ (significand - fractionCount))
  else .infinite negative

/-- A quotient rounded to the nearest whole number, halves to the even one. -/
def roundQuotient (numerator denominator : Nat) : Nat :=
  let quotient := numerator / denominator
  let twice := 2 * (numerator % denominator)
  if twice < denominator ∨ (twice = denominator ∧ quotient % 2 = 0) then quotient
  else quotient + 1

/-- The double nearest to a number of units given as a quotient. -/
def ofUnitQuotient (negative : Bool) (numerator denominator : Nat) : Double :=
  let whole := numerator / denominator
  let shift := Nat.log2 whole - 52
  let significand := roundQuotient numerator (denominator * Nat.pow 2 shift)
  if significand = 2 * fractionCount then ofSignificand negative fractionCount (shift + 1)
  else ofSignificand negative significand shift

/-- The double nearest to `numerator / denominator`. -/
def ofQuotient (negative : Bool) (numerator denominator : Nat) : Double :=
  ofUnitQuotient negative (numerator * unitsPerOne) denominator

/-- The double nearest to `digits · 10^exponent`. Exponents so far out that they cannot matter are
settled by counting digits. -/
def ofDecimal (negative : Bool) (digits : Nat) (exponent : Int) : Double :=
  let leading := (Nat.toDigits 10 digits).length + exponent
  if digits = 0 ∨ leading < -330 then .finite negative 0 0
  else if 330 < leading then .infinite negative
  else if 0 ≤ exponent then ofQuotient negative (digits * Nat.pow 10 exponent.toNat) 1
  else ofQuotient negative digits (Nat.pow 10 (-exponent).toNat)

/-- The value of a finite double in units, with its sign. -/
def units? : Double → Option Int
  | .finite negative exponent fraction =>
    let size : Int := magnitude exponent fraction
    some (if negative then -size else size)
  | _ => none

/-- The double nearest to an integer number of units. -/
def ofUnits (units : Int) : Double :=
  ofUnitQuotient (units < 0) units.natAbs 1

/-- The integer nearest to a number of units, halves to the even one. -/
def roundUnits (units : Int) : Int :=
  let rounded : Int := roundQuotient units.natAbs unitsPerOne
  if units < 0 then -rounded else rounded

end Double

end MockSql
