/-
# Ordered entries

Databases, tables, columns and cells are all found by name and listed in the order in which they
were added. Setting an entry that exists keeps its place; an entry that is removed and added again
comes last. Databases and tables are found in any spelling that folds to the same name, but an
exact spelling is preferred.
-/

import MockSql.Text.Case.Fold

namespace MockSql

/-- Named entries in the order in which they were added. -/
abbrev Entries (α : Type) := List (String × α)

/-- Two spellings of a name are the same when they fold to the same text. -/
def sameName (a b : String) : Bool :=
  Text.fold a.toList == Text.fold b.toList

namespace Entries

variable {α : Type}

/-- The names in order. -/
def keys (entries : Entries α) : List String :=
  entries.map Prod.fst

/-- The entry of an exact name. -/
def get? (entries : Entries α) (name : String) : Option α :=
  entries.lookup name

/-- Sets the entry of an exact name, in place if there is one and at the end otherwise. -/
def set : Entries α → String → α → Entries α
  | [], name, value => [(name, value)]
  | entry :: rest, name, value =>
    if entry.1 == name then (name, value) :: rest else entry :: set rest name value

/-- Sets several entries one after the other. -/
def setAll (entries : Entries α) (changes : Entries α) : Entries α :=
  changes.foldl (fun done change => done.set change.1 change.2) entries

/-- The entries whose names differ from an exact one. -/
def erase (entries : Entries α) (name : String) : Entries α :=
  entries.filter (·.1 != name)

/-- The stored spelling of a name: the name itself if it is stored, otherwise the first stored name
that is the same ignoring case. -/
def resolve? (entries : Entries α) (name : String) : Option String :=
  if entries.keys.contains name then some name
  else entries.keys.find? fun key => sameName key name

/-- The entry of a name in any spelling, with its stored spelling. -/
def find? (entries : Entries α) (name : String) : Option (String × α) :=
  (entries.resolve? name).bind fun key => (entries.get? key).map (key, ·)

end Entries

end MockSql
