/-
# JSON values

Requests, replies and the attributes of schema columns are JSON: scalars, arrays, and objects whose
members keep their order. Reading a text as JSON is another module's business.
-/

import MockSql.Entries
import MockSql.Value

namespace MockSql

/-- A JSON value. -/
inductive Json where
  | scalar (value : Value)
  | array (items : List Json)
  | object (members : List (String × Json))
deriving Repr, BEq

namespace Json

/-- The JSON value for nothing. -/
def null : Json := .scalar .null

/-- A truth value as JSON. -/
def bool (b : Bool) : Json := .scalar (.bool b)

/-- An integer as JSON. -/
def int (n : Int) : Json := .scalar (.int n)

/-- A text as JSON. -/
def text (s : String) : Json := .scalar (.text s)

/-- A list of texts as JSON. -/
def texts (names : List String) : Json := .array (names.map text)

/-- Whether a value counts as true: nothing, zero and whatever is empty do not. -/
def isTruthy : Json → Bool
  | .scalar .null => false
  | .scalar (.bool b) => b
  | .scalar (.int n) => n != 0
  | .scalar (.double x) => x.units? != some 0
  | .scalar (.text s) => s != ""
  | .array items => !items.isEmpty
  | .object members => !members.isEmpty

mutual

/-- Whether every integer in a value has few enough digits to be written. -/
def isWritable : Json → Bool
  | .scalar (.int n) => Number.isPrintable n
  | .scalar _ => true
  | .array items => areWritable items
  | .object members => membersWritable members

/-- Whether every item of an array can be written. -/
def areWritable : List Json → Bool
  | [] => true
  | item :: rest => item.isWritable && areWritable rest

/-- Whether every member of an object can be written. -/
def membersWritable : List (String × Json) → Bool
  | [] => true
  | (_, value) :: rest => value.isWritable && membersWritable rest

end

/-- The kind of a JSON value that is not a text. -/
def misnomer? : Json → Option Misnomer
  | .scalar .null => some .nothing
  | .scalar (.bool _) => some .boolean
  | .scalar (.int _) => some .integer
  | .scalar (.double _) => some .float
  | .scalar (.text _) => none
  | .array _ => some .list
  | .object _ => some .object

end Json

end MockSql
