/-
# What a statement leaves as it is

A statement changes one entry at most, and only in one way. A statement about databases adds an
empty one at the end or takes one away. A statement about tables leaves all databases but the
current one; in that it adds a table at the end, takes one away, renames one and moves it to the
end, or changes one where it stands. Everything else keeps its content and its place, and of a table
that is changed where it stands the name, the engine and the collation stay, and its columns unless
the statement is for changing them.
-/

import Mathlib.Control.Monad.Basic
import MockSql.Proofs.Targets
import MockSql.Seed

namespace MockSql

/-- Each name of the server, and of each of its databases, stands for one entry. -/
structure Server.IsMap (server : Server) : Prop where
  databases : server.keys.Nodup
  tables : ∀ database ∈ server, (Entries.keys database.2).Nodup

instance (server : Server) : Decidable server.IsMap :=
  decidable_of_iff (server.keys.Nodup ∧ ∀ database ∈ server, (Entries.keys database.2).Nodup)
    ⟨fun h => ⟨h.1, h.2⟩, fun h => ⟨h.databases, h.tables⟩⟩

theorem Database.Step.nodup_keys {database after : Database} (step : database.Step after)
    (unique : database.keys.Nodup) : after.keys.Nodup := by
  cases step with
  | keep => exact unique
  | create readable free => exact Entries.nodup_set _ _ unique
  | drop found => exact Entries.nodup_erase _ unique
  | rename found free => exact Entries.nodup_set _ _ (Entries.nodup_erase _ unique)
  | edit found edited => exact Entries.nodup_set _ _ unique

/-- A step leaves one entry for each name. -/
theorem Server.Step.isMap {server after : Server} (step : server.Step after)
    (isMap : server.IsMap) : after.IsMap := by
  cases step with
  | keep => exact isMap
  | create name free =>
      refine ⟨Entries.nodup_set _ _ isMap.databases, ?_⟩
      intro database hdatabase
      rcases Entries.mem_of_mem_set hdatabase with rfl | hstored
      · exact List.nodup_nil
      · exact isMap.tables database hstored
  | drop found =>
      refine ⟨Entries.nodup_erase _ isMap.databases, ?_⟩
      intro database hdatabase
      exact isMap.tables database (Entries.mem_of_mem_erase hdatabase)
  | inside found step =>
      refine ⟨Entries.nodup_set _ _ isMap.databases, ?_⟩
      intro database hdatabase
      rcases Entries.mem_of_mem_set hdatabase with rfl | hstored
      · exact step.nodup_keys (isMap.tables _ (Entries.mem_of_find? found))
      · exact isMap.tables database hstored

/-- Whether a statement only lists, chooses or selects. -/
def Statement.onlyReads : Statement → Bool
  | showDatabases | use _ | showTables | select _ => true
  | _ => false

/-- Whether a statement is for changing columns. -/
def Statement.changesColumns : Statement → Bool
  | alterTable _ _ => true
  | _ => false

/-- What a statement keeps of a table that it changes where it stands: all but the rows, and but the
columns if it is for changing them. -/
structure Table.KeptBy (table : Table) (statement : Statement) (after : Table) : Prop where
  name : after.name = table.name
  engine : after.engine = table.engine
  collation : after.collation = table.collation
  schema : statement.changesColumns = false → after.schema = table.schema

/-- What a statement about tables may make of the current database. -/
inductive Database.Frame : Statement → Database → Database → Prop
  /-- Nothing changes. -/
  | keep {statement : Statement} {database : Database} : Frame statement database database
  /-- A new table without rows comes last. -/
  | create {name : String} {columns : List ColumnDefinition} {database : Database}
      (free : database.resolve? name = none) :
      Frame (.createTable name columns) database
        (database ++ [(name, Table.ofDefinitions name columns)])
  /-- The target is taken away. -/
  | drop {name key : String} {table : Table} {front back : Database}
      (target : Entries.resolve? (front ++ (key, table) :: back) name = some key) :
      Frame (.dropTable name) (front ++ (key, table) :: back) (front ++ back)
  /-- The target comes last, the same but for its name. -/
  | rename {old new key : String} {table : Table} {front back : Database}
      (target : Entries.resolve? (front ++ (key, table) :: back) old = some key) :
      Frame (.renameTable old new) (front ++ (key, table) :: back)
        (front ++ back ++ [(new, { table with name := new })])
  /-- The target is changed where it stands. -/
  | edit {statement : Statement} {name key : String} {table edited : Table} {front back : Database}
      (isLocal : statement.isLocal = true) (writes : statement.onlyReads = false)
      (about : statement.table? = some name)
      (target : Entries.resolve? (front ++ (key, table) :: back) name = some key)
      (kept : table.KeptBy statement edited) :
      Frame statement (front ++ (key, table) :: back) (front ++ (key, edited) :: back)

/-- What a statement may make of a server. -/
inductive Server.Frame (current : Current) : Statement → Server → Server → Prop
  /-- Nothing changes. -/
  | keep {statement : Statement} {server : Server} : Frame current statement server server
  /-- A new database without tables comes last. -/
  | create {name : String} {server : Server} (free : server.resolve? name = none) :
      Frame current (.createDatabase name) server (server ++ [(name, [])])
  /-- The database is taken away. -/
  | drop {name key : String} {tables : Database} {front back : Server}
      (target : Entries.resolve? (front ++ (key, tables) :: back) name = some key) :
      Frame current (.dropDatabase name) (front ++ (key, tables) :: back) (front ++ back)
  /-- The tables of the current database change. -/
  | inside {statement : Statement} {given key : String} {tables changed : Database}
      {front back : Server} (writes : statement.onlyReads = false)
      (chosen : current = .named given)
      (target : Entries.resolve? (front ++ (key, tables) :: back) given = some key)
      (frame : Database.Frame statement tables changed) :
      Frame current statement (front ++ (key, tables) :: back) (front ++ (key, changed) :: back)

/-- A statement about the content of a table keeps all of it but its rows and, if it is for that,
its columns. -/
theorem Table.perform_keptBy {table after : Table} {statement : Statement} {answer : Answer}
    (h : table.perform statement = .ok (answer, after)) : table.KeptBy statement after := by
  cases statement with
  | showDatabases | createDatabase | dropDatabase | use | showTables => cases h
  | createTable | dropTable | renameTable => cases h
  | truncateTable name =>
      cases h
      exact ⟨rfl, rfl, rfl, fun _ => rfl⟩
  | alterTable name change =>
      have hcolumns : (Statement.alterTable name change).changesColumns = true := rfl
      cases change with
      | drop column =>
          obtain ⟨key, hkey, hanswer, rfl⟩ := dropColumn_eq_ok h
          exact ⟨rfl, rfl, rfl, fun hkeeps => absurd hcolumns (by simp [hkeeps])⟩
      | add column type =>
          obtain ⟨hfree, hanswer, rfl⟩ := addColumn_eq_ok h
          exact ⟨rfl, rfl, rfl, fun hkeeps => absurd hcolumns (by simp [hkeeps])⟩
  | select selection =>
      obtain ⟨selected, hselect, heq⟩ := map_eq_ok_iff.mp h
      cases heq
      exact ⟨rfl, rfl, rfl, fun _ => rfl⟩
  | insert insertion =>
      obtain ⟨columns, numbered, start, _, _, _, _, rfl⟩ := insert_eq_ok h
      exact ⟨rfl, rfl, rfl, fun _ => rfl⟩
  | update changes =>
      obtain ⟨before, row, rest, _, _, _, _, rfl⟩ := update_eq_ok h
      exact ⟨rfl, rfl, rfl, fun _ => rfl⟩
  | delete deletion =>
      obtain ⟨key, kept, _, _, _, rfl⟩ := delete_eq_ok h
      exact ⟨rfl, rfl, rfl, fun _ => rfl⟩

/-- A statement that only reads leaves the table as it is. -/
theorem Table.perform_onlyReads {table after : Table} {statement : Statement} {answer : Answer}
    (onlyReads : statement.onlyReads = true) (h : table.perform statement = .ok (answer, after)) :
    after = table := by
  cases statement with
  | select selection =>
      obtain ⟨selected, -, h⟩ := map_eq_ok_iff.mp h
      cases h
      rfl
  | showDatabases | use | showTables => cases h
  | _ => cases onlyReads

namespace Database

variable {database after : Database} {statement : Statement} {answer : Answer}
  {given stored : String}

/-- A statement that only reads leaves a database as it is. -/
theorem run_onlyReads (onlyReads : statement.onlyReads = true)
    (h : database.run given stored statement = .ok (answer, after)) : after = database := by
  cases run_eq_ok h with
  | showTables => rfl
  | createTable | dropTable | renameTable => cases onlyReads
  | perform isLocal about found performed =>
      rw [Table.perform_onlyReads onlyReads performed]
      exact Entries.set_get?_self (Entries.find?_eq_some found).2

/-- A table is renamed to a name that no other table has. -/
theorem not_mem_erase_of_free {key new : String} (free : database.isTaken key new = false) :
    new ∉ (database.erase key).keys := by
  intro hnew
  rw [Entries.keys_erase] at hnew
  obtain ⟨hstored, hne⟩ := List.mem_filter.mp hnew
  rw [isTaken, Entries.resolve?_of_mem hstored] at free
  simp [hne] at free

/-- A statement that succeeds in a database changes it within its frame. -/
theorem run_frame (unique : database.keys.Nodup)
    (h : database.run given stored statement = .ok (answer, after)) :
    Database.Frame statement database after := by
  cases run_eq_ok h with
  | showTables => exact .keep
  | createTable free =>
      rw [Entries.set_of_not_mem _ (Entries.not_mem_of_free free)]
      exact .create free
  | dropTable target =>
      obtain ⟨front, table, back, rfl⟩ := Entries.exists_split_of_resolve? target
      rw [Entries.erase_split unique]
      exact .drop target
  | renameTable found free =>
      obtain ⟨target, hget⟩ := Entries.find?_eq_some found
      obtain ⟨front, back, rfl, hfront⟩ := Entries.exists_split hget
      rw [Entries.set_of_not_mem _ (not_mem_erase_of_free free), Entries.erase_split unique]
      exact .rename target
  | perform isLocal about found performed =>
      by_cases onlyReads : statement.onlyReads = true
      · rw [run_onlyReads onlyReads h]
        exact .keep
      · obtain ⟨target, hget⟩ := Entries.find?_eq_some found
        obtain ⟨front, back, rfl, hfront⟩ := Entries.exists_split hget
        rw [Entries.set_split hfront]
        exact .edit isLocal (Bool.eq_false_iff.mpr onlyReads) about target
          (Table.perform_keptBy performed)

end Database

namespace Server

variable {server after : Server} {current : Current} {statement : Statement} {answer : Answer}

/-- A statement that only reads leaves a server as it is. -/
theorem run_onlyReads (onlyReads : statement.onlyReads = true)
    (h : server.run current statement = .ok (answer, after)) : after = server := by
  cases run_eq_ok h with
  | showDatabases | use => rfl
  | createDatabase | dropDatabase => cases onlyReads
  | inside needs chosen found ran =>
      rw [Database.run_onlyReads onlyReads ran]
      exact Entries.set_get?_self (Entries.find?_eq_some found).2

/-- A statement that succeeds changes a server within its frame. -/
theorem run_frame (isMap : server.IsMap) (h : server.run current statement = .ok (answer, after)) :
    Server.Frame current statement server after := by
  cases run_eq_ok h with
  | showDatabases | use => exact .keep
  | createDatabase free =>
      rw [Entries.set_of_not_mem _ (Entries.not_mem_of_free free)]
      exact .create free
  | dropDatabase target =>
      obtain ⟨front, tables, back, rfl⟩ := Entries.exists_split_of_resolve? target
      rw [Entries.erase_split isMap.databases]
      exact .drop target
  | inside needs chosen found ran =>
      by_cases onlyReads : statement.onlyReads = true
      · rw [run_onlyReads onlyReads h]
        exact .keep
      · have frame := Database.run_frame (isMap.tables _ (Entries.mem_of_find? found)) ran
        obtain ⟨target, hget⟩ := Entries.find?_eq_some found
        obtain ⟨front, back, rfl, hfront⟩ := Entries.exists_split hget
        rw [Entries.set_split hfront]
        exact .inside (Bool.eq_false_iff.mpr onlyReads) chosen target frame

/-- A text that is no statement changes nothing, and a statement changes nothing outside its frame,
be it successful or not. Each name stands for one entry afterwards as before. -/
theorem execute_frame (isMap : server.IsMap) (current : Current) (query : String) :
    let after := (server.execute current query).2
    (∀ fault, Statement.read query = .error fault → after = server) ∧
      (∀ statement, Statement.read query = .ok statement →
        Server.Frame current statement server after) ∧
      after.IsMap := by
  intro after
  refine ⟨?_, ?_, (server.execute_step current query).isMap isMap⟩
  · intro fault hread
    exact congrArg Prod.snd (execute_of_error current hread)
  · intro statement hread
    have hafter : after = (server.settle (server.run current statement)).2 :=
      congrArg Prod.snd (execute_of_ok current hread)
    rw [hafter]
    cases hrun : server.run current statement with
    | error fault => exact .keep
    | ok ran => exact run_frame isMap hrun

/-- A table that is renamed in the spellings of the built-in databases' names: it comes last in its
database, which keeps its place among the three. -/
theorem execute_frame_of_renaming :
    let query := "RENAME TABLE USERS TO clients"
    let statement : Statement := .renameTable "USERS" "clients"
    let after := (Seed.server.execute (.named "Demo_DB") query).2
    Seed.server.IsMap ∧ Statement.read query = .ok statement ∧
      Server.Frame (.named "Demo_DB") statement Seed.server after ∧ after.IsMap ∧
      after.keys = Seed.server.keys ∧
      (after.get? "demo_db").map Entries.keys = some ["products", "clients"] := by
  intro query statement after
  have isMap : Seed.server.IsMap := by decide +kernel
  have hread : Statement.read query = .ok statement := by decide +kernel
  obtain ⟨-, hframe, hafter⟩ := execute_frame isMap (.named "Demo_DB") query
  exact ⟨isMap, hread, hframe statement hread, hafter, by decide +kernel, by decide +kernel⟩

end Server

end MockSql
