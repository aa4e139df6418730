/-
# Statements

The statements that the server understands. A statement about tables needs a current database;
one about databases does not.
-/

import MockSql.ColumnDefinition

namespace MockSql

/-- The cells of a row, in the order in which the columns were set. -/
abbrev Row := Entries Value

/-- A change to the columns of a table. -/
inductive ColumnChange where
  | drop (column : String)
  | add (column type : String)
deriving DecidableEq, Repr

/-- The order in which rows are asked for. -/
structure Ordering where
  column : String
  descending : Bool
deriving DecidableEq, Repr

/-- What a selection asks for: a table, an order, and a part of its rows. -/
structure Selection where
  source : Option String
  ordering : Option Ordering := none
  limit : Option Nat := none
  offset : Nat := 0
deriving DecidableEq, Repr

/-- A row to insert; without a column list the values are for the columns of the schema. -/
structure Insertion where
  table : String
  columns : Option (List String)
  values : List Value
deriving DecidableEq, Repr

/-- The cells to set in the first row whose cell `column` equals `value`. -/
structure Update where
  table : String
  assignments : Row
  column : String
  value : Value
deriving DecidableEq, Repr

/-- The rows to delete: those whose cell `column` equals one of the ids. -/
structure Deletion where
  table : String
  column : String
  ids : List Int
deriving DecidableEq, Repr

/-- A statement. -/
inductive Statement where
  | showDatabases
  | createDatabase (name : String)
  | dropDatabase (name : String)
  | use (name : String)
  | showTables
  | createTable (name : String) (columns : List ColumnDefinition)
  | dropTable (name : String)
  | truncateTable (name : String)
  | renameTable (old new : String)
  | alterTable (table : String) (change : ColumnChange)
  | select (selection : Selection)
  | insert (insertion : Insertion)
  | update (update : Update)
  | delete (deletion : Deletion)
deriving DecidableEq, Repr

/-- Whether a statement is about the tables of the current database. -/
def Statement.needsDatabase : Statement → Bool
  | showDatabases | createDatabase _ | dropDatabase _ | use _ => false
  | _ => true

end MockSql
