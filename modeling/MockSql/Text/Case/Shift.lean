/-
# Case tables

Partners in case mostly lie at a fixed distance from each other, over a run of neighbours or over
every second code point of one. A table of such runs, and a list of the characters that become
several, give a case mapping.
-/

namespace MockSql.Text

/-- Every `step`-th code point from `first` to `last` moves by `distance`. -/
structure Shift where
  first : Nat
  last : Nat
  step : Nat
  distance : Int

/-- Whether a code point is moved by the run. -/
def Shift.covers (shift : Shift) (code : Nat) : Bool :=
  shift.first ≤ code && code ≤ shift.last && (code - shift.first) % shift.step == 0

/-- The image of a character under a case table; a character that is not listed stays. -/
def changeCase (shifts : List Shift) (expansions : List (Nat × List Nat)) (c : Char) :
    List Char :=
  match shifts.find? (·.covers c.toNat) with
  | some shift => [Char.ofNat (Int.toNat (c.toNat + shift.distance))]
  | none =>
    match expansions.lookup c.toNat with
    | some codes => codes.map Char.ofNat
    | none => [c]

end MockSql.Text
