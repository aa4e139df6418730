/-
# The shapes that define databases and tables

Listing, creating, dropping and choosing databases; listing, creating, dropping, emptying, renaming
and altering tables.
-/

import MockSql.ColumnDefinition.Reader
import MockSql.Statement.Shape

namespace MockSql.Shape

open MockSql.Text MockSql.ColumnDefinition

/-- `SHOW DATABASES` -/
def showDatabases : Shape :=
  phrase ["show", "databases"] .showDatabases

/-- `CREATE DATABASE name` -/
def createDatabase : Shape :=
  phraseAndName ["create", "database"] .createDatabase

/-- `DROP DATABASE name` -/
def dropDatabase : Shape :=
  phraseAndName ["drop", "database"] .dropDatabase

/-- `USE name` -/
def use : Shape :=
  phraseAndName ["use"] .use

/-- `SHOW TABLES` -/
def showTables : Shape :=
  phrase ["show", "tables"] .showTables

/-- What stands between a parenthesis and the one that ends a text, if that is anything. -/
def enclosed? (text : List Char) : Option (List Char) := do
  let inside ← afterChar? '(' text
  let body := inside.dropLast
  if inside.getLast? == some ')' && !body.isEmpty then some body else none

/-- `CREATE TABLE name (body)` -/
def createTable : Shape := fun text => do
  let (name, rest) ← (afterPhrase? ["create", "table"] text).bind takeSpacedName?
  let body ← enclosed? (trimStart rest)
  some (.statement (.createTable name (readBody body)))

/-- `DROP TABLE name` -/
def dropTable : Shape :=
  phraseAndName ["drop", "table"] .dropTable

/-- `TRUNCATE TABLE name` -/
def truncateTable : Shape :=
  phraseAndName ["truncate", "table"] .truncateTable

/-- `RENAME TABLE name TO name` -/
def renameTable : Shape := fun text => do
  let (old, rest) ← (afterPhrase? ["rename", "table"] text).bind takeSpacedName?
  let (new, rest) ←
    ((afterBlanks? rest).bind (afterPhrase? ["to"])).bind takeSpacedName?
  atEnd? rest
  some (.statement (.renameTable old new))

/-- The column that a text asks to drop, wherever it does so. -/
def droppedColumn? (text : List Char) : Option String :=
  findWord? (fun rest =>
    ((afterPhrase? ["drop", "column"] rest).bind takeSpacedName?).map Prod.fst) text

/-- The column that a text asks to add, wherever it does so, and its type. -/
def addedColumn? (text : List Char) : Option (String × String) :=
  findWord? (fun rest => do
    let (column, rest) ← (afterPhrase? ["add", "column"] rest).bind takeSpacedName?
    let (type, _) ← (afterBlanks? rest).bind takeType?
    some (column, type)) text

/-- The change that a text asks for: a column to drop wins over one to add. -/
def columnChange? (text : List Char) : Option ColumnChange :=
  ((droppedColumn? text).map .drop).or ((addedColumn? text).map fun (c, t) => .add c t)

/-- `ALTER TABLE name … DROP COLUMN name …` or `ALTER TABLE name … ADD COLUMN name type …` -/
def alterTable : Shape := fun text => do
  let (table, rest) ← (afterPhrase? ["alter", "table"] text).bind takeSpacedName?
  some (match columnChange? rest with
    | some change => .statement (.alterTable table change)
    | none => .declined)

end MockSql.Shape
