/-
# Reports

Every executed statement gives a report: its answer or its fault, and how long it took. On the wire
a report is a reply, an object of optional fields; a backend's reply has the same fields, with any
JSON in them.
-/

import MockSql.Table

namespace MockSql

/-- The outcome of a statement, and how many milliseconds it took. -/
structure Report where
  outcome : Except Fault Answer
  elapsed : Nat := 0

/-- Whether the statement succeeded. -/
def Report.succeeded (report : Report) : Bool :=
  report.outcome.isOk

/-- The fields of a result as they are sent. A field that is nothing is not sent. -/
structure Reply where
  success : Bool
  data : Option Json := none
  columns : Option Json := none
  message : Option Json := none
  error : Option Json := none
  rowsAffected : Option Json := none
  executionTime : Option Json := none
  totalRows : Option Json := none
deriving Repr, BEq

namespace Reply

/-- A failed reply without anything but its error. -/
def failure (error : Json) : Reply :=
  { success := false, error := some error }

/-- The reply of a report. -/
def ofReport (report : Report) : Reply :=
  let executionTime := some (.int report.elapsed)
  match report.outcome with
  | .error fault => { success := false, error := some (.text fault.report), executionTime }
  | .ok (.done message affected) =>
    { success := true, message := some (.text message)
      rowsAffected := affected.map fun n => .int n, executionTime }
  | .ok (.rows columns rows total) =>
    { success := true, data := some (.array (rows.map Table.rowToJson))
      columns := some (.texts columns), executionTime
      totalRows := total.map fun n => .int n }

/-- A member of an object, unless it is missing or nothing. -/
def field? (members : Entries Json) (name : String) : Option Json :=
  match members.get? name with
  | some (.scalar .null) => none
  | found => found

/-- The reply that the members of an object make. It is a success if the member that says so counts
as true; without that member it is not. -/
def ofMembers (members : Entries Json) : Reply where
  success := (members.get? "success").any Json.isTruthy
  data := field? members "data"
  columns := field? members "columns"
  message := field? members "message"
  error := field? members "error"
  rowsAffected := field? members "rowsAffected"
  executionTime := field? members "executionTime"
  totalRows := field? members "totalRows"

/-- The fields that are sent, by name. -/
def members (reply : Reply) : Entries Json :=
  ("success", .bool reply.success) ::
    [("data", reply.data), ("columns", reply.columns), ("message", reply.message),
      ("error", reply.error), ("rowsAffected", reply.rowsAffected),
      ("executionTime", reply.executionTime), ("totalRows", reply.totalRows)].filterMap
    fun (name, field) => field.map (name, ·)

/-- A reply as JSON. -/
def toJson (reply : Reply) : Json :=
  .object reply.members

end Reply

end MockSql
