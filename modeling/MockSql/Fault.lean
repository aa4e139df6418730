/-
# Why a statement or a request fails

Every failure has a cause. Most causes are the server's own answers: an unsupported statement, a
name that is missing or taken, no database, no matching row. The others come from values that no
rule foresees, such as an integer too long to be read; a statement that runs into one of them is
reported with an introduction in front.
-/

namespace MockSql

/-- The kinds of thing that can stand where a name is expected. -/
inductive Misnomer where
  | nothing
  | integer
  | float
  | boolean
  | list
  | object
deriving DecidableEq, Repr

/-- The word for a kind in a message. -/
def Misnomer.word : Misnomer → String
  | .nothing => "NoneType"
  | .integer => "int"
  | .float => "float"
  | .boolean => "bool"
  | .list => "list"
  | .object => "dict"

/-- A cause of failure. -/
inductive Fault where
  /-- The statement, in normal form, has none of the supported shapes. -/
  | unsupported (statement : String)
  /-- A table-level statement needs a current database. -/
  | noDatabase
  /-- The database named by `USE` does not exist. -/
  | unknownDatabase (name : String)
  | missingDatabase (name : String)
  | takenDatabase (name : String)
  /-- The table to drop, empty or rename does not exist. -/
  | missingTable (name : String)
  /-- The table to look at or to write to does not exist. -/
  | tableNotFound (name : String)
  /-- The table to select from does not exist in the database. -/
  | noSuchSource (database : String)
  /-- The table to update does not exist. -/
  | noSuchTarget
  | takenTable (name : String)
  | takenColumn (name : String)
  /-- No row matches the predicate of an update. -/
  | noMatchingRow
  /-- An integer's text has too many digits to be read. -/
  | unreadableInteger (digits : Nat)
  /-- An integer has too many digits to be written. -/
  | unwritableInteger
  /-- The greatest id is infinite, so no id follows it. -/
  | infiniteId
  /-- A schema column lacks an attribute. -/
  | missingAttribute (name : String)
  /-- The database is not given by a name, and cannot be compared with names. -/
  | notAName (kind : Misnomer)
deriving DecidableEq, Repr

namespace Fault

/-- The longest part of an unsupported statement that its message repeats. -/
def excerptLength : Nat := 50

/-- The wording of a cause. -/
def message : Fault → String
  | unsupported statement =>
    "Unsupported or invalid SQL query in demo mode: " ++
      String.ofList (statement.toList.take excerptLength) ++ "..."
  | noDatabase => "No database selected."
  | unknownDatabase name => s!"Unknown database '{name}'"
  | missingDatabase name => s!"Database '{name}' does not exist."
  | takenDatabase name => s!"Database '{name}' already exists."
  | missingTable name => s!"Table '{name}' does not exist."
  | tableNotFound name => s!"Table '{name}' not found."
  | noSuchSource database => s!"Table not found in database '{database}'"
  | noSuchTarget => "Table not found"
  | takenTable name => s!"Table '{name}' already exists."
  | takenColumn name => s!"Column '{name}' already exists."
  | noMatchingRow => "Row not found"
  | unreadableInteger digits =>
    "Exceeds the limit (4300 digits) for integer string conversion: value has " ++
      s!"{digits} digits; use sys.set_int_max_str_digits() to increase the limit"
  | unwritableInteger =>
    "Exceeds the limit (4300 digits) for integer string conversion; " ++
      "use sys.set_int_max_str_digits() to increase the limit"
  | infiniteId => "cannot convert float infinity to integer"
  | missingAttribute name => s!"'{name}'"
  | notAName .list => "unhashable type: 'list'"
  | notAName .object => "unhashable type: 'dict'"
  | notAName kind => "'" ++ kind.word ++ "' object has no attribute 'casefold'"

/-- Whether a cause is one of the server's own answers. -/
def isForeseen : Fault → Bool
  | unreadableInteger _ | unwritableInteger | infiniteId | missingAttribute _ | notAName _ => false
  | _ => true

/-- The error text of a failed statement. -/
def report (fault : Fault) : String :=
  if fault.isForeseen then fault.message else "Query execution failed: " ++ fault.message

end Fault

end MockSql
