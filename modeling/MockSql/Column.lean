/-
# Schema columns

A column of a stored table is an open record: the attributes that the column was created with or
that a snapshot gives it. Statements look at three of them: the name, which has to be there, the
kind of key, and the mark of a numbered column.
-/

import MockSql.Json

namespace MockSql

/-- The label of the primary key in a schema. -/
def primaryLabel : String := "PRI"

/-- The mark of a column that numbers its rows. -/
def autoIncrementMark : String := "AUTO_INCREMENT"

/-- A column of a stored table. -/
structure Column where
  attributes : Entries Json
deriving Repr, BEq

namespace Column

/-- The name of a column. -/
def name (column : Column) : Except Fault String :=
  match column.attributes.get? "name" with
  | none => .error (.missingAttribute "name")
  | some (.scalar (.text s)) => .ok s
  | some other => .error (.notAName (other.misnomer?.getD .nothing))

/-- Whether an attribute is a given text. -/
def hasText (column : Column) (attr text : String) : Bool :=
  match column.attributes.get? attr with
  | some (.scalar (.text s)) => s == text
  | _ => false

/-- Whether a column is marked as the primary key. -/
def isPrimary (column : Column) : Bool :=
  column.hasText "key" primaryLabel

/-- Whether a column numbers its rows. -/
def isNumbered (column : Column) : Bool :=
  column.hasText "extra" autoIncrementMark

/-- A column as JSON. -/
def toJson (column : Column) : Json :=
  .object column.attributes

end Column

end MockSql
