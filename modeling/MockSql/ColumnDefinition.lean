/-
# Column definitions

A column of a table under creation: its name and type, and what its clauses say. Its text is a
column of a `CREATE TABLE` body; as part of a table's schema it becomes a record of attributes.
-/

import MockSql.Column

namespace MockSql

/-- What a column is a key for. -/
inductive KeyKind where
  | primary
  | unique
  | multiple
  | none
deriving DecidableEq, Repr

/-- The label of a key in a schema. -/
def KeyKind.label : KeyKind → String
  | .primary => primaryLabel
  | .unique => "UNI"
  | .multiple => "MUL"
  | .none => ""

/-- The column of another table that a column points to; nothing enforces it. -/
structure Reference where
  table : String
  column : String
deriving DecidableEq, Repr

/-- A column under definition. -/
structure ColumnDefinition where
  name : String
  type : String
  nullable : Bool := true
  key : KeyKind := .none
  default : Option String := none
  autoIncrement : Bool := false
  reference : Option Reference := none
deriving DecidableEq, Repr

namespace ColumnDefinition

/-- What the schema remembers about the numbering of a column. -/
def extra (definition : ColumnDefinition) : String :=
  if definition.autoIncrement then autoIncrementMark else ""

/-- The clauses after the name and the type. -/
def clauses (definition : ColumnDefinition) : List String :=
  (if definition.nullable then [] else ["NOT NULL"]) ++
  (match definition.key with
    | .primary => ["PRIMARY KEY"]
    | .unique => ["UNIQUE"]
    | _ => []) ++
  (match definition.default with
    | some text => ["DEFAULT '" ++ text ++ "'"]
    | none => []) ++
  (if definition.autoIncrement then [autoIncrementMark] else [])

/-- The definition as it is written in a statement; a reference is left out. -/
def toText (definition : ColumnDefinition) : String :=
  " ".intercalate (definition.name :: definition.type :: definition.clauses)

/-- The schema column of a definition. -/
def toColumn (definition : ColumnDefinition) : Column :=
  ⟨[("name", .text definition.name), ("type", .text definition.type),
    ("null", .bool definition.nullable), ("key", .text definition.key.label),
    ("default", (definition.default.map Json.text).getD .null),
    ("extra", .text definition.extra)] ++
    match definition.reference with
    | some target =>
      [("references", .object [("table", .text target.table), ("column", .text target.column)])]
    | none => []⟩

end ColumnDefinition

end MockSql
