/-
# Statements about one table

A truncation, a change of columns, a selection, an insertion, an update and a deletion are about the
content of one table, which stands in a place of the server: under a name in a database. Executing
such a statement does to the server what the statement does to the table in its place.
-/

import MockSql.Proofs.Respelling

namespace MockSql

namespace Server

variable {server : Server} {query : String} {statement : Statement}

/-- A text that is no statement changes nothing. -/
theorem execute_of_error {fault : Fault} (current : Current)
    (hread : Statement.read query = .error fault) :
    server.execute current query = (.error fault, server) := by
  rw [execute_eq_settle, hread]
  rfl

/-- A text that is a statement does what the statement does. -/
theorem execute_of_ok (current : Current) (hread : Statement.read query = .ok statement) :
    server.execute current query = server.settle (server.run current statement) := by
  rw [execute_eq_settle, hread]
  rfl

/-- A statement about the content of a table does in a server what it does to the table. -/
theorem run_local {given name key stored : String} {tables : Database} {table : Table}
    (isLocal : statement.isLocal = true) (about : statement.table? = some name)
    (chosen : server.find? given = some (key, tables))
    (found : tables.find? name = some (stored, table)) :
    server.run (.named given) statement = (table.perform statement).map fun (answer, edited) =>
      (answer, server.set key (tables.set stored edited)) := by
  have needs : statement.needsDatabase = true := (needsDatabase_of_table? name about).1
  rw [run_table needs, Current.find, chosen]
  simp only [bind_ok, Database.run_local isLocal about found]
  cases table.perform statement <;> rfl

end Server

/-- A statement is about the content of one table, which stands under `stored` in the database that
stands under `key`. -/
structure Statement.Targets (statement : Statement) (server : Server) (current : Current)
    (key stored : String) (table : Table) : Prop where
  isLocal : statement.isLocal = true
  found : ∃ given name tables, current = .named given ∧ statement.table? = some name ∧
    server.find? given = some (key, tables) ∧ Entries.find? tables name = some (stored, table)

namespace Server

/-- Puts another table where one stands. -/
def setTable (server : Server) (key stored : String) (table : Table) : Server :=
  match server.get? key with
  | some tables => server.set key (tables.set stored table)
  | none => server

/-- The outcome of a statement about the content of a table, and the server after it. -/
def settleTable (server : Server) (key stored : String) :
    Except Fault (Answer × Table) → Except Fault Answer × Server
  | .ok (answer, edited) => (.ok answer, server.setTable key stored edited)
  | .error fault => (.error fault, server)

variable {server : Server} {current : Current} {query : String} {statement : Statement}
  {key stored : String} {tables : Database} {table : Table}

theorem setTable_eq (hget : server.get? key = some tables) (stored : String) (table : Table) :
    server.setTable key stored table = server.set key (tables.set stored table) := by
  simp only [setTable, hget]

/-- Of two tables that are put in one place the later one stays. -/
theorem setTable_setTable (server : Server) (key stored : String) (earlier later : Table) :
    (server.setTable key stored earlier).setTable key stored later =
      server.setTable key stored later := by
  cases hget : server.get? key with
  | none => simp only [setTable, hget]
  | some tables =>
      rw [setTable_eq hget, setTable_eq (Entries.get?_set_self _ _ _), setTable_eq hget,
        Entries.set_set, Entries.set_set]

/-- A text that is a statement about the content of a table does what the statement does to the
table. -/
theorem execute_of_targets (hread : Statement.read query = .ok statement)
    (targets : statement.Targets server current key stored table) :
    server.execute current query = server.settleTable key stored (table.perform statement) := by
  obtain ⟨given, name, tables, rfl, about, chosen, found⟩ := targets.found
  rw [execute_of_ok _ hread, run_local targets.isLocal about chosen found]
  cases table.perform statement with
  | error fault => rfl
  | ok performed =>
      have hget : server.get? key = some tables := (Entries.find?_eq_some chosen).2
      simp only [settleTable, setTable_eq hget]
      rfl

/-- A statement that succeeds on its table puts the changed table in its place. -/
theorem execute_of_perform {answer : Answer} {changed : Table}
    (hread : Statement.read query = .ok statement)
    (targets : statement.Targets server current key stored table)
    (hperform : table.perform statement = .ok (answer, changed)) :
    server.execute current query = (.ok answer, server.setTable key stored changed) := by
  rw [execute_of_targets hread targets, hperform]
  rfl

/-- A statement about the content of a table that succeeds is about a table that is there. -/
theorem exists_targets {answer : Answer} {after : Server} (isLocal : statement.isLocal = true)
    (h : server.run current statement = .ok (answer, after)) :
    ∃ key stored table, statement.Targets server current key stored table := by
  cases run_eq_ok h with
  | showDatabases | createDatabase | dropDatabase | use => cases isLocal
  | inside needs chosen found ran =>
      obtain ⟨name, stored, table, edited, about, hstored, -, -⟩ :=
        Database.run_local_eq_ok isLocal ran
      exact ⟨_, stored, table, isLocal, _, name, _, chosen, about, found, hstored⟩

end Server

/-- The table that a statement is about stands in its place already. -/
theorem Statement.Targets.setTable_eq_self {statement : Statement} {server : Server}
    {current : Current} {key stored : String} {table : Table}
    (targets : statement.Targets server current key stored table) :
    server.setTable key stored table = server := by
  obtain ⟨given, name, tables, -, -, chosen, found⟩ := targets.found
  have hget := (Entries.find?_eq_some chosen).2
  rw [Server.setTable_eq hget, Entries.set_get?_self (Entries.find?_eq_some found).2,
    Entries.set_get?_self hget]

/-- A statement is about one table only. -/
theorem Statement.Targets.unique {statement : Statement} {server : Server} {current : Current}
    {key stored key' stored' : String} {table table' : Table}
    (targets : statement.Targets server current key stored table)
    (targets' : statement.Targets server current key' stored' table') :
    key = key' ∧ stored = stored' ∧ table = table' := by
  obtain ⟨given, name, tables, hcurrent, about, chosen, found⟩ := targets.found
  obtain ⟨given', name', tables', hcurrent', about', chosen', found'⟩ := targets'.found
  cases hcurrent.symm.trans hcurrent'
  cases about.symm.trans about'
  cases chosen.symm.trans chosen'
  cases found.symm.trans found'
  exact ⟨rfl, rfl, rfl⟩

end MockSql
