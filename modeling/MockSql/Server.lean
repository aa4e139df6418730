/-
# The server's state

A server holds databases, and a database holds tables, each under a name and in the order of
creation. Names are found in any spelling; the stored spelling is the one of the creation. A store
is a server together with the seed that a reset returns to.
-/

import MockSql.Table

namespace MockSql

/-- The tables of a database. -/
abbrev Database := Entries Table

/-- The databases of a server. -/
abbrev Server := Entries Database

namespace Database

/-- The table of a name in any spelling. -/
def table (database : Database) (name : String) : Except Fault Table :=
  match database.find? name with
  | some (_, table) => .ok table
  | none => .error (.tableNotFound name)

/-- Adds a table. -/
def create (database : Database) (table : Table) : Except Fault Database :=
  match database.resolve? table.name with
  | some _ => .error (.takenTable table.name)
  | none => .ok (database.set table.name table)

/-- Removes a table. -/
def drop (database : Database) (name : String) : Except Fault Database :=
  match database.resolve? name with
  | some key => .ok (database.erase key)
  | none => .error (.missingTable name)

/-- Whether a table may not be renamed: another table has the name, or it has exactly that name
itself. A change of case alone is allowed. -/
def isTaken (database : Database) (oldKey new : String) : Bool :=
  match database.resolve? new with
  | some newKey => newKey != oldKey || new == oldKey
  | none => false

/-- Gives a table another name and moves it to the end. -/
def rename (database : Database) (old new : String) : Except Fault Database :=
  match database.find? old with
  | none => .error (.missingTable old)
  | some (oldKey, table) =>
    if database.isTaken oldKey new then .error (.takenTable new)
    else .ok ((database.erase oldKey).set new { table with name := new })

/-- The database as JSON. -/
def toJson (database : Database) : Json :=
  .object (database.map fun (name, table) => (name, table.toJson))

end Database

namespace Server

/-- The database of a name in any spelling, with its stored spelling. -/
def database (server : Server) (name : String) : Except Fault (String × Database) :=
  match server.find? name with
  | some found => .ok found
  | none => .error (.missingDatabase name)

/-- Adds an empty database. -/
def createDatabase (server : Server) (name : String) : Except Fault Server :=
  match server.resolve? name with
  | some _ => .error (.takenDatabase name)
  | none => .ok (server.set name [])

/-- Removes a database with its tables. -/
def dropDatabase (server : Server) (name : String) : Except Fault Server :=
  match server.resolve? name with
  | some key => .ok (server.erase key)
  | none => .error (.missingDatabase name)

/-- The table of a database, both in any spelling. -/
def table (server : Server) (database name : String) : Except Fault Table := do
  let (_, tables) ← server.database database
  tables.table name

/-- The stored spelling of a table's name, the names of the table and its database being given in any
spelling. -/
def resolveTable? (server : Server) (database name : String) : Option String :=
  (server.find? database).bind fun (_, tables) => tables.resolve? name

/-- Changes the tables of a database. -/
def inDatabase (server : Server) (name : String) (change : Database → Except Fault Database) :
    Except Fault Server := do
  let (key, tables) ← server.database name
  .ok (server.set key (← change tables))

/-- The server as JSON. -/
def toJson (server : Server) : Json :=
  .object (server.map fun (name, database) => (name, database.toJson))

end Server

/-- A server and the state that a reset returns to. -/
structure Store where
  seed : Server
  server : Server
deriving Repr, BEq

namespace Store

/-- A store in the state of its seed. -/
def ofSeed (seed : Server) : Store := ⟨seed, seed⟩

/-- Discards every change since the seed. -/
def reset (store : Store) : Store :=
  { store with server := store.seed }

end Store

end MockSql
