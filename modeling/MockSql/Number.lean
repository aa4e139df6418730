/-
# Numbers as values compare them

A value reads as an integer or as a double. Every number but NaN has a rank: an infinity stands
outside all finite numbers, and the finite ones, integers and doubles alike, stand at their exact
position in units of the smallest double. Equality and order of numbers are those of their ranks,
so nothing is rounded when an integer meets a double.
-/

import MockSql.Number.Double

namespace MockSql

/-- An integer of any size, or a double. -/
inductive Number where
  | int (n : Int)
  | double (x : Double)
deriving DecidableEq, Repr

namespace Number

/-- The position of a number: below, among or above the finite ones, and where among them. NaN has
no position. -/
def rank? : Number → Option (Int × Int)
  | .int n => some (0, n * Double.unitsPerOne)
  | .double .nan => none
  | .double (.infinite negative) => some (if negative then -1 else 1, 0)
  | .double x => x.units?.map (0, ·)

/-- Two numbers are equal when they have the same rank. -/
def equals (a b : Number) : Bool :=
  match a.rank?, b.rank? with
  | some p, some q => p == q
  | _, _ => false

/-- One number is less than another when it ranks lower. -/
def less (a b : Number) : Bool :=
  match a.rank?, b.rank? with
  | some p, some q => p.1 < q.1 || (p.1 == q.1 && p.2 < q.2)
  | _, _ => false

/-- The integer part of a number; an infinity and NaN have none. -/
def truncate? : Number → Option Int
  | .int n => some n
  | .double x => x.units?.map fun units => Int.tdiv units Double.unitsPerOne

end Number

end MockSql
