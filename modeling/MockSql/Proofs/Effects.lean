/-
# What a statement does

What a statement answers when it succeeds and what it leaves, for every kind of statement. A
truncation, a change of columns, a selection, an insertion, an update and a deletion find one table
by its name; what they answer and what they make of the table depend on that table alone, and the
table stays where it stands. The code is read here once: facts about all statements are proved by
cases over these effects.
-/

import MockSql.Execution
import MockSql.Proofs.Entries
import MockSql.Proofs.Operations

namespace MockSql

namespace Statement

/-- The table that a statement is about, as it is named there. A renaming is about the table that it
renames. -/
def table? : Statement → Option String
  | dropTable name | truncateTable name | renameTable name _ | alterTable name _ => some name
  | select selection => selection.source
  | insert insertion => some insertion.table
  | update changes => some changes.table
  | delete deletion => some deletion.table
  | showDatabases | createDatabase _ | dropDatabase _ | use _ | showTables | createTable _ _ => none

/-- Whether a statement is about the content of one table, which stays where it stands. -/
def isLocal : Statement → Bool
  | truncateTable _ | alterTable _ _ | select _ | insert _ | update _ | delete _ => true
  | _ => false

end Statement

/-- What a statement about the content of a table answers, and what it makes of the table. -/
def Table.perform (table : Table) : Statement → Except Fault (Answer × Table)
  | .truncateTable name =>
    .ok (.done s!"Table '{name}' has been truncated." none, table.withRows [])
  | .alterTable _ change => table.alter change
  | .select selection => (table.select selection).map (·, table)
  | .insert insertion => table.insert insertion
  | .update changes => table.update changes
  | .delete deletion => table.delete deletion
  | _ => .error .noDatabase

namespace Database

variable {database after : Database} {statement : Statement} {answer : Answer}
  {given stored name key : String} {table : Table}

/-- A change of a table that succeeds puts the changed table in the place of the one found. -/
theorem onTable_eq_ok {missing : Fault} {change : Table → Except Fault (Answer × Table)}
    (h : database.onTable name missing change = .ok (answer, after)) :
    ∃ key table edited, database.find? name = some (key, table) ∧
      change table = .ok (answer, edited) ∧ after = database.set key edited := by
  unfold onTable at h
  split at h
  next => cases h
  next key table hfind =>
    obtain ⟨⟨given, edited⟩, hchange, h⟩ := bind_eq_ok_iff.mp h
    cases h
    exact ⟨key, table, edited, hfind, hchange, rfl⟩

/-- A table is created under a name that resolves to nothing. -/
theorem create_eq_ok (h : database.create table = .ok after) :
    database.resolve? table.name = none ∧ after = database.set table.name table := by
  unfold create at h
  split at h
  next => cases h
  next hfree =>
    cases h
    exact ⟨hfree, rfl⟩

/-- A table is dropped under its stored name. -/
theorem drop_eq_ok (h : database.drop name = .ok after) :
    ∃ key, database.resolve? name = some key ∧ after = database.erase key := by
  unfold drop at h
  split at h
  next key hkey =>
    cases h
    exact ⟨key, hkey, rfl⟩
  next => cases h

/-- A table is renamed by taking it away and setting it under a name that is free then. -/
theorem rename_eq_ok {old new : String} (h : database.rename old new = .ok after) :
    ∃ key table, database.find? old = some (key, table) ∧ database.isTaken key new = false ∧
      after = (database.erase key).set new { table with name := new } := by
  unfold rename at h
  split at h
  next => cases h
  next key table hfind =>
    split at h
    next => cases h
    next hfree =>
      cases h
      exact ⟨key, table, hfind, Bool.eq_false_iff.mpr hfree, rfl⟩

theorem onTable_of_find? {missing : Fault} {change : Table → Except Fault (Answer × Table)}
    (found : database.find? name = some (key, table)) :
    database.onTable name missing change =
      (change table).map fun (answer, edited) => (answer, database.set key edited) := by
  simp only [onTable, found]
  cases change table <;> rfl

/-- A statement about the content of a table does in a database what it does to the table. -/
theorem run_local (isLocal : statement.isLocal = true) (about : statement.table? = some name)
    (found : database.find? name = some (key, table)) :
    database.run given stored statement =
      (table.perform statement).map fun (answer, edited) => (answer, database.set key edited) := by
  cases statement with
  | showDatabases | createDatabase | dropDatabase | use | showTables => cases isLocal
  | createTable | dropTable | renameTable => cases isLocal
  | truncateTable name =>
      cases about
      exact onTable_of_find? found
  | alterTable name change =>
      cases about
      exact onTable_of_find? found
  | select selection =>
      have hsource : selection.source = some name := about
      have hsame : database.set key table = database :=
        Entries.set_get?_self (Entries.find?_eq_some found).2
      simp only [run, select, hsource, Option.bind_some, found, Table.perform]
      cases table.select selection with
      | error fault => rfl
      | ok selected => simp [bind_ok, Except.map, hsame]
  | insert insertion =>
      cases about
      exact onTable_of_find? found
  | update changes =>
      cases about
      exact onTable_of_find? found
  | delete deletion =>
      cases about
      exact onTable_of_find? found

/-- Such a statement succeeds only if it finds its table. -/
theorem run_local_eq_ok (isLocal : statement.isLocal = true)
    (h : database.run given stored statement = .ok (answer, after)) :
    ∃ name key table edited, statement.table? = some name ∧
      database.find? name = some (key, table) ∧ table.perform statement = .ok (answer, edited) ∧
      after = database.set key edited := by
  have hfound : ∃ name key table, statement.table? = some name ∧
      database.find? name = some (key, table) := by
    cases statement with
    | showDatabases | createDatabase | dropDatabase | use | showTables => cases isLocal
    | createTable | dropTable | renameTable => cases isLocal
    | select selection =>
        obtain ⟨selected, hselect, _⟩ := bind_eq_ok_iff.mp h
        unfold select at hselect
        split at hselect
        next => cases hselect
        next key table hfind =>
          obtain ⟨name, hsource, hfind⟩ := Option.bind_eq_some_iff.mp hfind
          exact ⟨name, key, table, hsource, hfind⟩
    | _ =>
        obtain ⟨key, table, _, hfind, _, _⟩ := onTable_eq_ok h
        exact ⟨_, key, table, rfl, hfind⟩
  obtain ⟨name, key, table, about, found⟩ := hfound
  rw [run_local isLocal about found] at h
  cases hperform : table.perform statement with
  | error fault =>
      rw [hperform] at h
      cases h
  | ok performed =>
      rw [hperform] at h
      cases h
      exact ⟨name, key, table, performed.2, about, found, hperform, rfl⟩

end Database

/-- What a statement that succeeds in a database answers and leaves there. -/
inductive Database.Effect (database : Database) (key : String) :
    Statement → Answer → Database → Prop
  | showTables : Effect database key .showTables (database.listing key) database
  | createTable {name : String} {columns : List ColumnDefinition}
      (free : database.resolve? name = none) :
      Effect database key (.createTable name columns) (.done s!"Table '{name}' created." none)
        (database.set name (Table.ofDefinitions name columns))
  | dropTable {name stored : String} (found : database.resolve? name = some stored) :
      Effect database key (.dropTable name) (.done s!"Table '{name}' dropped." none)
        (database.erase stored)
  | renameTable {old new stored : String} {table : Table}
      (found : database.find? old = some (stored, table))
      (free : database.isTaken stored new = false) :
      Effect database key (.renameTable old new)
        (.done s!"Table '{old}' renamed to '{new}'." none)
        ((database.erase stored).set new { table with name := new })
  | perform {statement : Statement} {answer : Answer} {name stored : String} {table edited : Table}
      (isLocal : statement.isLocal = true) (about : statement.table? = some name)
      (found : database.find? name = some (stored, table))
      (performed : table.perform statement = .ok (answer, edited)) :
      Effect database key statement answer (database.set stored edited)

/-- A statement that succeeds in a database has such an effect. -/
theorem Database.run_eq_ok {database after : Database} {given key : String} {statement : Statement}
    {answer : Answer} (h : database.run given key statement = .ok (answer, after)) :
    database.Effect key statement answer after := by
  cases statement with
  | showTables =>
      cases h
      exact .showTables
  | createTable name columns =>
      obtain ⟨changed, hcreate, h⟩ := bind_eq_ok_iff.mp h
      cases h
      obtain ⟨free, rfl⟩ := create_eq_ok hcreate
      exact .createTable free
  | dropTable name =>
      obtain ⟨changed, hdrop, h⟩ := bind_eq_ok_iff.mp h
      cases h
      obtain ⟨stored, found, rfl⟩ := drop_eq_ok hdrop
      exact .dropTable found
  | renameTable old new =>
      obtain ⟨changed, hrename, h⟩ := bind_eq_ok_iff.mp h
      cases h
      obtain ⟨stored, table, found, free, rfl⟩ := rename_eq_ok hrename
      exact .renameTable found free
  | showDatabases | createDatabase | dropDatabase | use => cases h
  | _ =>
      obtain ⟨name, stored, table, edited, about, found, performed, rfl⟩ := run_local_eq_ok rfl h
      exact .perform rfl about found performed

/-- A current database that is found is stored under the name it was found by. -/
theorem Current.find_eq_ok {current : Current} {server : Server} {given key : String}
    {tables : Database} (h : current.find server = .ok (given, key, tables)) :
    current = .named given ∧ server.find? given = some (key, tables) := by
  cases current with
  | unset => cases h
  | misnamed kind => cases h
  | named name =>
      simp only [find] at h
      split at h
      next hfind =>
        cases h
        exact ⟨rfl, hfind⟩
      next => cases h

/-- What a statement that succeeds answers and leaves. A statement about tables does so in the
current database. -/
inductive Server.Effect (server : Server) (current : Current) :
    Statement → Answer → Server → Prop
  | showDatabases : Effect server current .showDatabases server.listing server
  | createDatabase {name : String} (free : server.resolve? name = none) :
      Effect server current (.createDatabase name) (.done s!"Database '{name}' created." none)
        (server.set name [])
  | dropDatabase {name key : String} (found : server.resolve? name = some key) :
      Effect server current (.dropDatabase name) (.done s!"Database '{name}' dropped." none)
        (server.erase key)
  | use {name key : String} (found : server.resolve? name = some key) :
      Effect server current (.use name) (.done s!"Database changed to '{key}'." none) server
  | inside {statement : Statement} {answer : Answer} {given key : String}
      {tables changed : Database} (needs : statement.needsDatabase = true)
      (chosen : current = .named given) (found : server.find? given = some (key, tables))
      (ran : tables.run given key statement = .ok (answer, changed)) :
      Effect server current statement answer (server.set key changed)

namespace Server

variable {server after : Server} {current : Current} {statement : Statement} {name : String}

/-- A database is created, without tables, under a name that resolves to nothing. -/
theorem createDatabase_eq_ok (h : server.createDatabase name = .ok after) :
    server.resolve? name = none ∧ after = server.set name [] := by
  unfold createDatabase at h
  split at h
  next => cases h
  next hfree =>
    cases h
    exact ⟨hfree, rfl⟩

/-- A database is dropped under its stored name. -/
theorem dropDatabase_eq_ok (h : server.dropDatabase name = .ok after) :
    ∃ key, server.resolve? name = some key ∧ after = server.erase key := by
  unfold dropDatabase at h
  split at h
  next key hkey =>
    cases h
    exact ⟨key, hkey, rfl⟩
  next => cases h

/-- A change of the tables of a database that succeeds puts the changed tables in their place. -/
theorem inDatabase_eq_ok {change : Database → Except Fault Database}
    (h : server.inDatabase name change = .ok after) :
    ∃ key tables changed, server.find? name = some (key, tables) ∧ change tables = .ok changed ∧
      after = server.set key changed := by
  obtain ⟨⟨key, tables⟩, hfound, h⟩ := bind_eq_ok_iff.mp h
  obtain ⟨changed, hchange, h⟩ := bind_eq_ok_iff.mp h
  cases h
  unfold database at hfound
  split at hfound
  next found hfind =>
    cases hfound
    exact ⟨key, tables, changed, hfind, hchange, rfl⟩
  next => cases hfound

/-- A statement about tables runs in the current database, and what it leaves is put back there. -/
theorem run_table (needs : statement.needsDatabase = true) :
    server.run current statement = (current.find server >>= fun found =>
      found.2.2.run found.1 found.2.1 statement >>= fun ran =>
        .ok (ran.1, server.set found.2.1 ran.2)) := by
  cases statement with
  | showDatabases | createDatabase | dropDatabase | use => cases needs
  | _ => rfl

/-- A statement that succeeds has such an effect. -/
theorem run_eq_ok {answer : Answer} (h : server.run current statement = .ok (answer, after)) :
    server.Effect current statement answer after := by
  by_cases needs : statement.needsDatabase = true
  · rw [run_table needs] at h
    obtain ⟨⟨given, key, tables⟩, hfind, h⟩ := bind_eq_ok_iff.mp h
    obtain ⟨⟨answered, changed⟩, ran, h⟩ := bind_eq_ok_iff.mp h
    cases h
    obtain ⟨chosen, found⟩ := Current.find_eq_ok hfind
    exact .inside needs chosen found ran
  · cases statement with
    | showDatabases =>
        cases h
        exact .showDatabases
    | createDatabase name =>
        obtain ⟨changed, hcreate, h⟩ := bind_eq_ok_iff.mp h
        cases h
        obtain ⟨free, rfl⟩ := createDatabase_eq_ok hcreate
        exact .createDatabase free
    | dropDatabase name =>
        obtain ⟨changed, hdrop, h⟩ := bind_eq_ok_iff.mp h
        cases h
        obtain ⟨key, found, rfl⟩ := dropDatabase_eq_ok hdrop
        exact .dropDatabase found
    | use name =>
        simp only [run] at h
        split at h
        next key found =>
          cases h
          exact .use found
        next => cases h
    | _ => exact absurd rfl needs

end Server

end MockSql
