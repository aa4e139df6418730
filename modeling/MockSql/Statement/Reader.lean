/-
# Reading statements

A text is trimmed, one semicolon at its end dropped, and the shapes are tried in turn. The first
one that makes something of the text decides; if none does, the statement is unsupported, and the
message repeats the beginning of its normal form.
-/

import MockSql.Statement.Shape.Definition
import MockSql.Statement.Shape.Rows

namespace MockSql.Statement

open MockSql.Text

/-- A statement without white space around it and without one semicolon at its end. -/
def strip (text : List Char) : List Char :=
  let inner := trim text
  if inner.getLast? == some ';' then trimEnd inner.dropLast else inner

/-- The normal form of a statement that no shape matches: stripped and in lower case. -/
def normalize (text : List Char) : List Char :=
  lower (strip text)

/-- The shapes, in the order in which they are tried. -/
def shapes : List Shape := [
  Shape.showDatabases, Shape.createDatabase, Shape.dropDatabase, Shape.use, Shape.showTables,
  Shape.createTable, Shape.dropTable, Shape.truncateTable, Shape.renameTable, Shape.alterTable,
  Shape.select, Shape.insert, Shape.update, Shape.delete]

/-- What the first shape that does not decline makes of a stripped text. -/
def readWith : List Shape → List Char → Option (Except Fault Statement)
  | [], _ => none
  | shape :: rest, text =>
    match shape text with
    | some (.statement statement) => some (.ok statement)
    | some (.unreadable fault) => some (.error fault)
    | some .declined | none => readWith rest text

/-- The statement that a text is, or why it is none. -/
def read (query : String) : Except Fault Statement :=
  (readWith shapes (strip query.toList)).getD
    (.error (.unsupported (String.ofList (normalize query.toList))))

/-- The database that a text chooses, if it is a statement that chooses one. -/
def chosenDatabase? (query : String) : Option String :=
  match Shape.use (strip query.toList) with
  | some (.statement (.use name)) => some name
  | _ => none

end MockSql.Statement
