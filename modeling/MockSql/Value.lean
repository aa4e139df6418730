/-
# Values

A cell holds nothing, a truth value, an integer, a double or a text. Values are compared loosely:
two that both read as numbers are compared as numbers, any other two by their texts, and nothing
equals only nothing. A text reads as a number when it denotes one; a truth value does not.
-/

import MockSql.Fault
import MockSql.Number
import MockSql.Number.Double.Printer
import MockSql.Number.Double.Reader

namespace MockSql

/-- The content of a cell, and a literal of a statement. -/
inductive Value where
  | null
  | bool (b : Bool)
  | int (n : Int)
  | double (x : Double)
  | text (s : String)
deriving DecidableEq, Repr

/-- The text of an integer, unless it has too many digits to be written. -/
def intText (n : Int) : Except Fault String :=
  if Number.isPrintable n then .ok (String.ofList (Number.intDigits n))
  else .error .unwritableInteger

namespace Value

/-- The text of a value. -/
def toText : Value → Except Fault String
  | .null => .ok "None"
  | .bool b => .ok (if b then "True" else "False")
  | .int n => intText n
  | .double x => .ok (String.ofList x.toText)
  | .text s => .ok s

/-- What a cell shows: the text of its value, or that there is none. -/
def cellText : Value → Except Fault String
  | .null => .ok "NULL"
  | value => value.toText

/-- The number that a value reads as. -/
def number? : Value → Option Number
  | .null => none
  | .bool _ => none
  | .int n => some (.int n)
  | .double x => some (.double x)
  | .text s => (Double.read? s.toList).map .double

/-- Loose equality. Only the comparison of texts can fail, on an integer that cannot be written. -/
def looseEquals : Value → Value → Except Fault Bool
  | .null, .null => .ok true
  | .null, _ => .ok false
  | _, .null => .ok false
  | a, b =>
    match a.number?, b.number? with
    | some p, some q => .ok (p.equals q)
    | _, _ => do
      let s ← a.toText
      let t ← b.toText
      .ok (s == t)

end Value

/-- What rows are ordered by: a missing value comes first, then the numbers, then the texts. -/
inductive SortKey where
  | missing
  | number (n : Number)
  | text (s : List Char)
deriving DecidableEq, Repr

/-- The place of a value in an ordering. -/
def Value.sortKey (value : Value) : SortKey :=
  match value with
  | .null => .missing
  | .bool b => .text (if b then "True" else "False").toList
  | .int n => .number (.int n)
  | .double x => .number (.double x)
  | .text s =>
    match value.number? with
    | some n => .number n
    | none => .text s.toList

/-- Numbers come in numeric order, texts by code points. -/
def SortKey.less : SortKey → SortKey → Bool
  | .missing, .missing => false
  | .missing, _ => true
  | _, .missing => false
  | .number a, .number b => a.less b
  | .number _, .text _ => true
  | .text _, .number _ => false
  | .text s, .text t => s < t

end MockSql
