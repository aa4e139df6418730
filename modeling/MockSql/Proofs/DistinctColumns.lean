/-
# Columns of one name

No two columns of a table should have the same name ignoring case: a statement that looks a column
up finds only one of them, and a row has one cell for both. A column that is added is compared with
all that are there. The definitions of a new table are compared with nothing, so a table can be
created with two columns of one name. Nothing else that happens to a server makes a table with such
columns out of tables without.
-/

import MockSql.Proofs.Frames

namespace MockSql

namespace Table

/-- The names of the columns that have one, in their order. -/
def givenNames (table : Table) : List String :=
  table.schema.filterMap (·.name.toOption)

/-- No two columns have the same name ignoring case. -/
def HasDistinctColumns (table : Table) : Prop :=
  DistinctNames table.givenNames

instance (table : Table) : Decidable table.HasDistinctColumns :=
  inferInstanceAs (Decidable (DistinctNames table.givenNames))

variable {table after : Table} {answer : Answer}

/-- The columns of a new table have the names of their definitions. -/
theorem givenNames_ofDefinitions (name : String) (columns : List ColumnDefinition) :
    (ofDefinitions name columns).givenNames = columns.map (·.name) := by
  rw [givenNames, ofDefinitions, List.filterMap_map]
  exact congrFun List.filterMap_eq_map columns

/-- A name that no column has in any spelling is the name of no column. -/
theorem ne_of_firstName?_eq_none {schema : List Column} {column : String}
    (hnone : firstName? (sameName · column) schema = .ok none) :
    ∀ name ∈ schema.filterMap (·.name.toOption), foldedName name ≠ foldedName column := by
  induction schema with
  | nil => exact fun name hname => nomatch hname
  | cons first rest ih =>
      obtain ⟨name, hname, hnone⟩ := bind_eq_ok_iff.mp hnone
      by_cases same : sameName name column = true
      · simp [same] at hnone
      · rw [if_neg same] at hnone
        intro other hother
        simp only [List.filterMap_cons, hname, Except.toOption, List.mem_cons] at hother
        rcases hother with rfl | hother
        · exact mt sameName_iff.mpr same
        · exact ih hnone other hother

theorem HasDistinctColumns.dropColumn {column : String} (distinct : table.HasDistinctColumns)
    (h : table.dropColumn column = .ok (answer, after)) : after.HasDistinctColumns := by
  obtain ⟨key, -, -, rfl⟩ := dropColumn_eq_ok h
  exact distinct.sublist (List.filter_sublist.filterMap _)

/-- The name of a column that is added is compared with all others. -/
theorem HasDistinctColumns.addColumn {column type : String} (distinct : table.HasDistinctColumns)
    (h : table.addColumn column type = .ok (answer, after)) : after.HasDistinctColumns := by
  obtain ⟨hfree, -, rfl⟩ := addColumn_eq_ok h
  rw [HasDistinctColumns, givenNames, List.filterMap_append]
  exact distinct.concat (ne_of_firstName?_eq_none hfree)

/-- A statement about the content of a table never makes a second column of one name. -/
theorem HasDistinctColumns.perform {statement : Statement} (distinct : table.HasDistinctColumns)
    (h : table.perform statement = .ok (answer, after)) : after.HasDistinctColumns := by
  cases hchanges : statement.changesColumns with
  | false =>
      rw [HasDistinctColumns, givenNames, (perform_keptBy h).schema hchanges]
      exact distinct
  | true =>
      cases statement with
      | alterTable name change =>
          cases change with
          | drop column => exact distinct.dropColumn h
          | add column type => exact distinct.addColumn h
      | _ => cases hchanges

end Table

/-- No table has two columns of the same name ignoring case. -/
def Database.HasDistinctColumns (database : Database) : Prop :=
  ∀ entry ∈ database, entry.2.HasDistinctColumns

instance (database : Database) : Decidable database.HasDistinctColumns :=
  inferInstanceAs (Decidable (∀ entry ∈ database, entry.2.HasDistinctColumns))

/-- No table of any database has two columns of the same name ignoring case. -/
def Server.HasDistinctColumns (server : Server) : Prop :=
  ∀ entry ∈ server, Database.HasDistinctColumns entry.2

instance (server : Server) : Decidable server.HasDistinctColumns :=
  inferInstanceAs (Decidable (∀ entry ∈ server, Database.HasDistinctColumns entry.2))

/-- A statement is the creation of a table in which a name is defined twice. -/
def Statement.DefinesTwice : Statement → Prop
  | createTable _ columns => ¬DistinctNames (columns.map (·.name))
  | _ => False

namespace Database

variable {database after : Database} {statement : Statement} {answer : Answer} {name : String}

/-- A table that is renamed keeps its columns. -/
theorem HasDistinctColumns.renamed {stored new : String} {table : Table}
    (distinct : database.HasDistinctColumns)
    (found : database.find? name = some (stored, table)) :
    HasDistinctColumns ((database.erase stored).set new { table with name := new }) :=
  (Entries.forall_set_iff (Entries.forall_erase distinct)).mpr
    (distinct _ (Entries.mem_of_find? found))

/-- A statement that succeeds in a database leaves the names of columns different unless it creates
a table in which one is defined twice. -/
theorem run_hasDistinctColumns_iff {given key : String} (distinct : database.HasDistinctColumns)
    (h : database.run given key statement = .ok (answer, after)) :
    after.HasDistinctColumns ↔ ¬statement.DefinesTwice := by
  cases run_eq_ok h with
  | showTables => exact iff_of_true distinct id
  | createTable free =>
      rw [HasDistinctColumns, Entries.forall_set_iff distinct, Table.HasDistinctColumns,
        Table.givenNames_ofDefinitions]
      exact Classical.not_not.symm
  | dropTable found => exact iff_of_true (Entries.forall_erase distinct) id
  | renameTable found free => exact iff_of_true (distinct.renamed found) id
  | perform isLocal about found performed =>
      have hnot : ¬statement.DefinesTwice := by
        cases statement with
        | createTable => cases isLocal
        | _ => exact id
      have hedited := (distinct _ (Entries.mem_of_find? found)).perform performed
      exact iff_of_true ((Entries.forall_set_iff distinct).mpr hedited) hnot

end Database

namespace Server

variable {server after : Server} {current : Current} {statement : Statement} {answer : Answer}
  {name : String}

/-- A database that is created has no tables. -/
theorem HasDistinctColumns.created (distinct : server.HasDistinctColumns) (name : String) :
    HasDistinctColumns (server.set name []) :=
  (Entries.forall_set_iff distinct).mpr fun _ htable => nomatch htable

/-- The tables of a database are put back with different names of columns. -/
theorem HasDistinctColumns.set {key : String} {tables : Database}
    (distinct : server.HasDistinctColumns) (htables : tables.HasDistinctColumns) :
    HasDistinctColumns (server.set key tables) :=
  (Entries.forall_set_iff distinct).mpr htables

/-- A statement that succeeds leaves the names of columns different unless it creates a table in
which one is defined twice. -/
theorem run_hasDistinctColumns_iff (distinct : server.HasDistinctColumns)
    (h : server.run current statement = .ok (answer, after)) :
    after.HasDistinctColumns ↔ ¬statement.DefinesTwice := by
  cases run_eq_ok h with
  | showDatabases | use => exact iff_of_true distinct id
  | createDatabase free => exact iff_of_true (distinct.created _) id
  | dropDatabase found => exact iff_of_true (Entries.forall_erase distinct) id
  | inside needs chosen found ran =>
      exact (Entries.forall_set_iff distinct).trans
        (Database.run_hasDistinctColumns_iff (distinct _ (Entries.mem_of_find? found)) ran)

/-- A text is a statement that creates a table, and a name is defined twice in it. -/
def DefinesTwice (server : Server) (current : Current) (query : String) : Prop :=
  ∃ statement answer, Statement.read query = .ok statement ∧ statement.DefinesTwice ∧
    (server.execute current query).1 = .ok answer

/-- Where the names of columns are different, they are after a text is executed unless that creates
a table in which one is defined twice. -/
theorem execute_hasDistinctColumns_iff (distinct : server.HasDistinctColumns) (current : Current)
    (query : String) :
    HasDistinctColumns (server.execute current query).2 ↔ ¬server.DefinesTwice current query := by
  cases hread : Statement.read query with
  | error fault =>
      rw [execute_of_error current hread]
      refine iff_of_true distinct ?_
      rintro ⟨statement, answer, hstatement, -⟩
      cases hread.symm.trans hstatement
  | ok statement =>
      have htwice : server.DefinesTwice current query ↔ statement.DefinesTwice ∧
          ∃ answer, (server.settle (server.run current statement)).1 = .ok answer := by
        rw [DefinesTwice, execute_of_ok current hread, hread]
        simp [eq_comm]
      rw [htwice, execute_of_ok current hread]
      cases hrun : server.run current statement with
      | error fault => exact iff_of_true distinct fun ⟨_, answer, h⟩ => nomatch h
      | ok ran =>
          have hafter := run_hasDistinctColumns_iff distinct hrun
          simpa [settle] using hafter

end Server

namespace Store

/-- An event is the creation of a table in which a name is defined twice. -/
def DefinesTwice (store : Store) : Event → Prop
  | .statement current query => store.server.DefinesTwice current query
  | _ => False

/-- A store in which, and in whose seed, no table has two columns of one name. -/
structure HasDistinctColumns (store : Store) : Prop where
  seed : store.seed.HasDistinctColumns
  server : store.server.HasDistinctColumns

/-- Where the names of columns are different, they are after an event unless that creates a table in
which one is defined twice. -/
theorem Effect.hasDistinctColumns_iff {store : Store} {event : Event} {after : Server}
    (effect : store.Effect event after) (distinct : store.HasDistinctColumns) :
    after.HasDistinctColumns ↔ ¬store.DefinesTwice event := by
  have hserver := distinct.server
  cases effect with
  | statement => exact Server.execute_hasDistinctColumns_iff hserver _ _
  | failure direct =>
      refine iff_of_true hserver ?_
      cases event with
      | statement => cases direct
      | createDatabase | dropDatabase | deleteTable | renameTable | reset => exact id
  | createDatabase free => exact iff_of_true (hserver.created _) id
  | dropDatabase found => exact iff_of_true (Entries.forall_erase hserver) id
  | deleteTable chosen found =>
      have htables := hserver _ (Entries.mem_of_find? chosen)
      exact iff_of_true (hserver.set (Entries.forall_erase htables)) id
  | renameTable chosen found free =>
      have htables : Database.HasDistinctColumns _ := hserver _ (Entries.mem_of_find? chosen)
      exact iff_of_true (hserver.set (htables.renamed found)) id
  | reset => exact iff_of_true distinct.seed id

theorem after_hasDistinctColumns_iff {store : Store} (event : Event)
    (distinct : store.HasDistinctColumns) :
    (store.after event).HasDistinctColumns ↔ ¬store.DefinesTwice event := by
  rw [← (store.after_effect event).hasDistinctColumns_iff distinct]
  exact ⟨fun h => h.server, fun h => ⟨store.seed_after event ▸ distinct.seed, h⟩⟩

/-- From a seed in which no table has two columns of the same name ignoring case, none ever has,
exactly as long as no table is created in which a name is defined twice. -/
theorem columns_stay_distinct_iff {seed : Server} (distinct : seed.HasDistinctColumns)
    (events : List Event) :
    (∀ done, done <+: events →
      ((Store.ofSeed seed).afterAll done).server.HasDistinctColumns) ↔
      ∀ done event, done ++ [event] <+: events →
        ¬((Store.ofSeed seed).afterAll done).DefinesTwice event := by
  have hstore (done : List Event) : ((Store.ofSeed seed).afterAll done).HasDistinctColumns ↔
      ((Store.ofSeed seed).afterAll done).server.HasDistinctColumns :=
    ⟨fun h => h.server, fun h => ⟨(seed_afterAll (ofSeed seed) done).symm ▸ distinct, h⟩⟩
  simp only [← hstore]
  exact along_run_iff after_hasDistinctColumns_iff ⟨distinct, distinct⟩ events

/-- A table with one column, to which one of the same name is not added. -/
theorem columns_stay_distinct_iff_of_checked :
    let creation := Event.statement (.named "demo_db") "CREATE TABLE t (a int)"
    let addition := Event.statement (.named "demo_db") "ALTER TABLE t ADD COLUMN A int"
    Seed.server.HasDistinctColumns ∧ ∀ done, done <+: [creation, addition] →
      ((Store.ofSeed Seed.server).afterAll done).server.HasDistinctColumns := by
  intro creation addition
  have distinct : Seed.server.HasDistinctColumns := by decide +kernel
  refine ⟨distinct, (columns_stay_distinct_iff distinct _).mpr ?_⟩
  have hcreation (server : Server) :
      ¬server.DefinesTwice (.named "demo_db") "CREATE TABLE t (a int)" := by
    rintro ⟨statement, answer, hread, htwice, -⟩
    have hstatement : Statement.read "CREATE TABLE t (a int)" =
        .ok (.createTable "t" [{ name := "a", type := "int" }]) := by decide +kernel
    cases hread.symm.trans hstatement
    exact htwice (by decide)
  have haddition (server : Server) :
      ¬server.DefinesTwice (.named "demo_db") "ALTER TABLE t ADD COLUMN A int" := by
    rintro ⟨statement, answer, hread, htwice, -⟩
    have hstatement : Statement.read "ALTER TABLE t ADD COLUMN A int" =
        .ok (.alterTable "t" (.add "A" "int")) := by decide +kernel
    cases hread.symm.trans hstatement
    exact htwice
  intro done event hdone
  have hevent : event ∈ [creation, addition] :=
    hdone.subset (List.mem_append_right done List.mem_cons_self)
  rcases List.mem_cons.mp hevent with rfl | hevent
  · exact hcreation _
  · cases List.mem_singleton.mp hevent
    exact haddition _

/-- From the built-in seed, one creation makes a table with two columns of one name, although the
second could not be added to the first. -/
theorem creation_repeats_a_name :
    let run (queries : List String) :=
      (Store.ofSeed Seed.server).afterAll (queries.map (Event.statement (.named "demo_db")))
    Seed.server.HasDistinctColumns ∧
      ¬(run ["CREATE TABLE t (a int, A int)"]).server.HasDistinctColumns ∧
      ((run ["CREATE TABLE t (a int)"]).server.execute (.named "demo_db")
        "ALTER TABLE t ADD COLUMN A int").1 = .error (.takenColumn "A") := by
  intro run
  exact ⟨by decide +kernel, by decide +kernel, by decide +kernel⟩

end Store

end MockSql
