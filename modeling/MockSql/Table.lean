/-
# Tables

A table has a schema and rows. A row is a list of cells and need not have a cell for every column
of the schema, nor only such cells. The stored number of rows is brought up to date whenever rows
are added or removed.

Each operation either gives the changed table or a fault, never a table changed in part.
-/

import MockSql.Statement

namespace MockSql

/-- A stored table. -/
structure Table where
  name : String
  rowCount : Nat
  engine : String
  collation : String
  schema : List Column
  rows : List Row
deriving Repr, BEq

/-- What a statement answers when it succeeds: rows under column names, or a message. -/
inductive Answer where
  | rows (columns : List String) (rows : List Row) (total : Option Nat)
  | done (message : String) (affected : Option Nat)
deriving DecidableEq, Repr

/-- The cell of a row under a column, nothing if there is none. -/
def Row.cell (row : Row) (column : String) : Value :=
  (row.get? column).getD .null

/-- The first name in a schema that satisfies a condition. The search fails at a column without a
name. -/
def firstName? (condition : String → Bool) : List Column → Except Fault (Option String)
  | [] => .ok none
  | column :: rest => do
    let name ← column.name
    if condition name then .ok (some name) else firstName? condition rest

namespace Table

/-- The engine of a new table. -/
def defaultEngine : String := "InnoDB"

/-- The collation of a new table. -/
def defaultCollation : String := "utf8mb4_unicode_ci"

/-- A new table without rows. -/
def ofDefinitions (name : String) (definitions : List ColumnDefinition) : Table where
  name := name
  rowCount := 0
  engine := defaultEngine
  collation := defaultCollation
  schema := definitions.map (·.toColumn)
  rows := []

/-- The table with other rows, and with their number. -/
def withRows (table : Table) (rows : List Row) : Table :=
  { table with rows, rowCount := rows.length }

/-- The names of the columns. -/
def columnNames (table : Table) : Except Fault (List String) :=
  table.schema.mapM (·.name)

/-- The schema's spelling of a column name: the name itself if a column has it, otherwise that of
the first column that has it ignoring case, and the name as given if none does. -/
def columnKey (table : Table) (name : String) : Except Fault String := do
  match ← firstName? (· == name) table.schema with
  | some key => .ok key
  | none => .ok ((← firstName? (sameName · name) table.schema).getD name)

/-- Drops a column from the schema and its cell from every row. -/
def dropColumn (table : Table) (column : String) : Except Fault (Answer × Table) := do
  let key ← table.columnKey column
  let _ ← table.columnNames
  .ok (.done s!"Column '{key}' dropped." none,
    { table with
      schema := table.schema.filter (!·.hasText "name" key)
      rows := table.rows.map (·.erase key) })

/-- Adds a column at the end of the schema and sets its cell to nothing in every row. -/
def addColumn (table : Table) (column type : String) : Except Fault (Answer × Table) := do
  match ← firstName? (sameName · column) table.schema with
  | some _ => .error (.takenColumn column)
  | none =>
    .ok (.done s!"Column '{column}' added." none,
      { table with
        schema := table.schema ++ [({ name := column, type } : ColumnDefinition).toColumn]
        rows := table.rows.map (·.set column .null) })

/-- Changes the columns. -/
def alter (table : Table) : ColumnChange → Except Fault (Answer × Table)
  | .drop column => table.dropColumn column
  | .add column type => table.addColumn column type

/-- The rows in the order of one of their cells; rows with equal keys keep their order. -/
def sortRows (rows : List Row) (column : String) (descending : Bool) : List Row :=
  let key (row : Row) := (row.cell column).sortKey
  rows.mergeSort fun a b => if descending then !(key a).less (key b) else !(key b).less (key a)

/-- The part of a list after an offset and up to a limit; without a limit the offset is void. -/
def page (rows : List Row) (limit : Option Nat) (offset : Nat) : List Row :=
  match limit with
  | some count => (rows.drop offset).take count
  | none => rows

/-- The rows that a selection asks for, and how many rows there are in all. -/
def select (table : Table) (selection : Selection) : Except Fault Answer := do
  let rows ← match selection.ordering with
    | some ordering => do
      let key ← table.columnKey ordering.column
      .ok (sortRows table.rows key ordering.descending)
    | none => .ok table.rows
  let columns ← table.columnNames
  .ok (.rows columns (page rows selection.limit selection.offset) (some table.rows.length))

/-- The columns that the values of an insertion are for: the listed ones, or those of the schema
that do not number their rows. -/
def targetColumns (table : Table) (insertion : Insertion) : Except Fault (List String) :=
  match insertion.columns with
  | some columns => .ok columns
  | none => (table.schema.filter (!·.isNumbered)).mapM (·.name)

/-- The primary key column, if it numbers its rows and the insertion does not set it. -/
def numberedKey? (table : Table) (columns : List String) : Except Fault (Option String) :=
  match table.schema.find? (·.isPrimary) with
  | none => .ok none
  | some column =>
    if column.isNumbered then do
      let name ← column.name
      .ok (if columns.contains name then none else some name)
    else .ok none

/-- The greater of a number and what a value reads as. -/
def greater (best : Number) (value : Value) : Number :=
  match value.number? with
  | some n => if best.less n then n else best
  | none => best

/-- The first integer above zero and above every number in a column. -/
def nextId (rows : List Row) (column : String) : Except Fault Int :=
  match (rows.foldl (fun best row => greater best (row.cell column)) (.int 0)).truncate? with
  | some greatest => .ok (greatest + 1)
  | none => .error .infiniteId

/-- Columns with their values; a column that no value is left for gets nothing. -/
def pairCells : List String → List Value → Row
  | [], _ => []
  | column :: columns, [] => (column, .null) :: pairCells columns []
  | column :: columns, value :: values => (column, value) :: pairCells columns values

/-- Appends the row of an insertion. -/
def insert (table : Table) (insertion : Insertion) : Except Fault (Answer × Table) := do
  let columns ← table.targetColumns insertion
  let start : Row ← match ← table.numberedKey? columns with
    | some key => do .ok [(key, .int (← nextId table.rows key))]
    | none => .ok []
  let row := start.setAll (pairCells columns insertion.values)
  .ok (.done "1 row inserted." (some 1), table.withRows (table.rows ++ [row]))

/-- Whether a row has a cell that equals a value. -/
def rowMatches (column : String) (value : Value) (row : Row) : Except Fault Bool :=
  match row.get? column with
  | some cell => cell.looseEquals value
  | none => .ok false

/-- The rows with the first matching one changed; none if no row matches. -/
def updateFirst? (isMatch : Row → Except Fault Bool) (change : Row → Row) :
    List Row → Except Fault (Option (List Row))
  | [] => .ok none
  | row :: rest => do
    if ← isMatch row then .ok (some (change row :: rest))
    else .ok ((← updateFirst? isMatch change rest).map (row :: ·))

/-- Sets cells in the first row that matches. -/
def update (table : Table) (update : Update) : Except Fault (Answer × Table) := do
  match ← updateFirst? (rowMatches update.column update.value) (·.setAll update.assignments)
      table.rows with
  | some rows => .ok (.done "1 row updated." (some 1), { table with rows })
  | none => .error .noMatchingRow

/-- Whether a value equals one of the ids. -/
def equalsAny (value : Value) : List Int → Except Fault Bool
  | [] => .ok false
  | id :: ids => do if ← value.looseEquals (.int id) then .ok true else equalsAny value ids

/-- The rows whose cell equals none of the ids. -/
def rowsWithout (column : String) (ids : List Int) : List Row → Except Fault (List Row)
  | [] => .ok []
  | row :: rest => do
    let leaves ← equalsAny (row.cell column) ids
    let kept ← rowsWithout column ids rest
    .ok (if leaves then kept else row :: kept)

/-- Deletes the rows whose cell equals one of the ids. -/
def delete (table : Table) (deletion : Deletion) : Except Fault (Answer × Table) := do
  let key ← table.columnKey deletion.column
  let kept ← rowsWithout key deletion.ids table.rows
  let count := table.rows.length - kept.length
  .ok (.done s!"{count} row(s) deleted." (some count), table.withRows kept)

/-- A row as JSON. -/
def rowToJson (row : Row) : Json :=
  .object (row.map fun (column, value) => (column, .scalar value))

/-- A table as JSON. -/
def toJson (table : Table) : Json :=
  .object [("name", .text table.name), ("rows", .int table.rowCount),
    ("engine", .text table.engine), ("collation", .text table.collation),
    ("schema", .array (table.schema.map (·.toJson))),
    ("data", .array (table.rows.map rowToJson))]

end Table

end MockSql
