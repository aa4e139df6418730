/-
# Executing statements

A statement runs against a server and a current database. It either succeeds with an answer and a
new state, or fails with a fault and leaves the state alone. A statement about tables works inside
the current database, so it cannot touch any other.
-/

import MockSql.Server
import MockSql.Statement.Reader

namespace MockSql

/-- The database that statements about tables are for. A request can also give something that is
no name; only a statement that needs a database minds. -/
inductive Current where
  | unset
  | named (name : String)
  | misnamed (kind : Misnomer)
deriving DecidableEq, Repr

/-- The name of the current database, the stored spelling of it, and its tables. -/
def Current.find (current : Current) (server : Server) :
    Except Fault (String × String × Database) :=
  match current with
  | .unset => .error .noDatabase
  | .misnamed kind => .error (.notAName kind)
  | .named name =>
    match server.find? name with
    | some (key, tables) => .ok (name, key, tables)
    | none => .error .noDatabase

namespace Database

/-- Changes a table, found in any spelling of its name, where it stands. -/
def onTable (database : Database) (name : String) (missing : Fault)
    (change : Table → Except Fault (Answer × Table)) : Except Fault (Answer × Database) :=
  match database.find? name with
  | none => .error missing
  | some (key, table) => do
    let (answer, changed) ← change table
    .ok (answer, database.set key changed)

/-- The name of the one column that lists tables. -/
def listingColumn (key : String) : String := "Tables_in_" ++ key

/-- The names of the tables as rows. -/
def listing (database : Database) (key : String) : Answer :=
  let column := listingColumn key
  .rows [column] (database.keys.map fun name => [(column, .text name)]) none

/-- Selects from a table. The fault names the database as it was given. -/
def select (database : Database) (given : String) (selection : Selection) :
    Except Fault Answer :=
  match selection.source.bind database.find? with
  | none => .error (.noSuchSource given)
  | some (_, table) => table.select selection

/-- Runs a statement about tables in the database stored as `key` and named as `given`. -/
def run (database : Database) (given key : String) :
    Statement → Except Fault (Answer × Database)
  | .showTables => .ok (database.listing key, database)
  | .createTable name columns => do
    let changed ← database.create (Table.ofDefinitions name columns)
    .ok (.done s!"Table '{name}' created." none, changed)
  | .dropTable name => do
    let changed ← database.drop name
    .ok (.done s!"Table '{name}' dropped." none, changed)
  | .truncateTable name =>
    database.onTable name (.missingTable name) fun table =>
      .ok (.done s!"Table '{name}' has been truncated." none, table.withRows [])
  | .renameTable old new => do
    let changed ← database.rename old new
    .ok (.done s!"Table '{old}' renamed to '{new}'." none, changed)
  | .alterTable name change => database.onTable name (.tableNotFound name) (·.alter change)
  | .select selection => do
    let answer ← database.select given selection
    .ok (answer, database)
  | .insert insertion =>
    database.onTable insertion.table (.tableNotFound insertion.table) (·.insert insertion)
  | .update update => database.onTable update.table .noSuchTarget (·.update update)
  | .delete deletion =>
    database.onTable deletion.table (.tableNotFound deletion.table) (·.delete deletion)
  | .showDatabases | .createDatabase _ | .dropDatabase _ | .use _ => .error .noDatabase

end Database

namespace Server

/-- The names of the databases as rows. -/
def listing (server : Server) : Answer :=
  .rows ["Database"] (server.keys.map fun name => [("Database", .text name)]) none

/-- Runs a statement. Choosing a database only checks that it exists: whoever keeps the current
database keeps track of it. -/
def run (server : Server) (current : Current) (statement : Statement) :
    Except Fault (Answer × Server) :=
  match statement with
  | .showDatabases => .ok (server.listing, server)
  | .createDatabase name => do
    let changed ← server.createDatabase name
    .ok (.done s!"Database '{name}' created." none, changed)
  | .dropDatabase name => do
    let changed ← server.dropDatabase name
    .ok (.done s!"Database '{name}' dropped." none, changed)
  | .use name =>
    match server.resolve? name with
    | some key => .ok (.done s!"Database changed to '{key}'." none, server)
    | none => .error (.unknownDatabase name)
  | tableStatement => do
    let (given, key, tables) ← current.find server
    let (answer, changed) ← tables.run given key tableStatement
    .ok (answer, server.set key changed)

/-- Reads a statement and runs it. A failure leaves the server as it was. -/
def execute (server : Server) (current : Current) (query : String) :
    Except Fault Answer × Server :=
  match (Statement.read query).bind (server.run current) with
  | .ok (answer, changed) => (.ok answer, changed)
  | .error fault => (.error fault, server)

end Server

end MockSql
