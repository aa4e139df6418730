/-
# Time

A clock gives readings in seconds, as doubles. A statement reads it when it starts and when it
ends, and the difference, in doubles, is reported in whole milliseconds, halves to the even one; a
clock that goes back reports no time.
-/

import MockSql.Number.Double

namespace MockSql.Clock

/-- The milliseconds between two readings; readings that are not finite give none. -/
def elapsed (start stop : Double) : Nat :=
  match start.units?, stop.units? with
  | some before, some after =>
    match (Double.ofUnits (after - before)).units? with
    | some seconds =>
      match (Double.ofUnits (seconds * 1000)).units? with
      | some milliseconds => (Double.roundUnits milliseconds).toNat
      | none => 0
    | none => 0
  | _, _ => 0

/-- The durations of the statements that take the readings in pairs; a reading that is missing is
zero. -/
def durations : List Double → List Nat
  | [] => []
  | [start] => [elapsed start (Double.ofUnits 0)]
  | start :: stop :: rest => elapsed start stop :: durations rest

end MockSql.Clock
