/-
# Removing what was created

A database or a table that is created comes last, and a removal in any spelling of its name finds it
and takes out nothing else, so the server is what it was before. An added column comes last in its
table, with nothing in every row, and dropping it in any spelling of its name puts the table back if no
row had a cell of that name. But a column to drop is looked for in the type of an addition first, and if
one is named there, then that column is dropped and none is added.
-/

import MockSql.Proofs.ColumnChanges
import MockSql.Proofs.FreshIds

namespace MockSql

/-- The text under the attribute of the name is the name. -/
theorem Column.hasText_name_eq_false {definition : Column} {name other : String}
    (hname : definition.name = .ok name) (hne : name ≠ other) :
    definition.hasText "name" other = false := by
  unfold Column.name at hname
  unfold Column.hasText
  split at hname
  next => cases hname
  next s hget =>
    cases hname
    rw [hget]
    simpa using hne
  next => cases hname

namespace Table

variable {table added : Table} {answer : Answer} {column other type : String}

/-- The column that an addition puts behind the others. -/
def newColumn (column type : String) : Column :=
  ({ name := column, type } : ColumnDefinition).toColumn

theorem name_newColumn : (newColumn column type).name = .ok column :=
  rfl

theorem hasText_newColumn : (newColumn column type).hasText "name" column = true :=
  beq_self_eq_true column

/-- A column that was added is dropped in any spelling of its name, and then the table is what it was
before, if no row had a cell of that name. -/
theorem dropColumn_addColumn (hadd : table.addColumn column type = .ok (answer, added))
    (same : sameName column other = true) (hrows : ∀ row ∈ table.rows, column ∉ row.keys) :
    added.dropColumn other = .ok (.done s!"Column '{column}' dropped." none, table) := by
  obtain ⟨hfree, -, rfl⟩ := addColumn_eq_ok hadd
  obtain ⟨names, hnames, hnone⟩ := exists_names_of_firstName?_eq_none hfree
  have hdiffer : ∀ name ∈ names, foldedName name ≠ foldedName column := fun name hname hfolded =>
    Bool.false_ne_true ((hnone name hname).symm.trans (sameName_iff.mpr hfolded))
  let added : Table := { table with
    schema := table.schema ++ [newColumn column type], rows := table.rows.map (·.set column .null) }
  have hcolumns : added.columnNames = .ok (names ++ [column]) := mapM_concat hnames name_newColumn
  have hkey : added.columnKey other = .ok column := by
    refine columnKey_of_unique hcolumns (by simp) ?_ same
    intro name hname hfolded
    rcases List.mem_append.mp hname with hname | hname
    · exact absurd hfolded (hdiffer name hname)
    · exact List.mem_singleton.mp hname
  have hschema : added.schema.filter (!·.hasText "name" column) = table.schema := by
    have hkept : table.schema.filter (!·.hasText "name" column) = table.schema := by
      rw [List.filter_eq_self]
      intro definition hdefinition
      obtain ⟨name, hname, hread⟩ := exists_mem_of_mapM hnames hdefinition
      have hne : name ≠ column := fun heq => hdiffer name hname (heq ▸ rfl)
      rw [Column.hasText_name_eq_false hread hne]
      rfl
    rw [List.filter_append, hkept, List.filter_cons_of_neg (by simp [hasText_newColumn]),
      List.filter_nil, List.append_nil]
  have hcells : added.rows.map (·.erase column) = table.rows := by
    rw [List.map_map]
    refine (List.map_congr_left fun row hrow => ?_).trans (List.map_id table.rows)
    exact Entries.erase_set_of_not_mem Value.null (hrows row hrow)
  have hdrop : added.dropColumn other = .ok (.done s!"Column '{column}' dropped." none,
      { added with
        schema := added.schema.filter (!·.hasText "name" column)
        rows := added.rows.map (·.erase column) }) := by
    rw [dropColumn, hkey, bind_ok, hcolumns]
    rfl
  exact hdrop.trans (by rw [hschema, hcells])

end Table

namespace Server

variable {server after : Server} {current current' : Current} {creation removal name other : String}
  {answer : Answer}

/-- A text that is a statement and is answered runs to its answer. -/
theorem run_of_execute {query : String} {statement : Statement}
    (reads : Statement.read query = .ok statement)
    (executed : server.execute current query = (.ok answer, after)) :
    server.run current statement = .ok (answer, after) := by
  rw [execute_of_ok current reads] at executed
  cases hrun : server.run current statement with
  | error fault =>
      rw [hrun] at executed
      cases executed
  | ok ran =>
      rw [hrun] at executed
      cases executed
      rfl

/-- A database that was created is dropped in any spelling of its name. -/
theorem dropDatabase_createDatabase (reads : Statement.read creation = .ok (.createDatabase name))
    (readsRemoval : Statement.read removal = .ok (.dropDatabase other))
    (same : sameName name other = true)
    (created : server.execute current creation = (.ok answer, after)) :
    after.execute current' removal = (.ok (.done s!"Database '{other}' dropped." none), server) := by
  cases run_eq_ok (run_of_execute reads created) with
  | inside needs => cases needs
  | createDatabase free =>
      have hresolve := Entries.resolve?_set_of_free ([] : Database) free same
      rw [execute_of_ok current' readsRemoval]
      simp only [run, dropDatabase, hresolve, bind_ok,
        Entries.erase_set_of_not_mem _ (Entries.not_mem_of_free free)]
      rfl

/-- A table that was created is dropped in any spelling of its name, in the same database. -/
theorem dropTable_createTable {given given' key : String} {tables : Database}
    {columns : List ColumnDefinition} (chosen : server.find? given = some (key, tables))
    (chosen' : server.find? given' = some (key, tables))
    (reads : Statement.read creation = .ok (.createTable name columns))
    (readsRemoval : Statement.read removal = .ok (.dropTable other))
    (same : sameName name other = true)
    (created : server.execute (.named given) creation = (.ok answer, after)) :
    after.execute (.named given') removal =
      (.ok (.done s!"Table '{other}' dropped." none), server) := by
  cases run_eq_ok (run_of_execute reads created) with
  | inside needs hcurrent found ran =>
      cases hcurrent
      cases chosen.symm.trans found
      cases Database.run_eq_ok ran with
      | perform isLocal => cases isLocal
      | createTable free =>
          have hresolve := Entries.resolve?_set_of_free (Table.ofDefinitions name columns) free same
          have hfound := Entries.find?_set (tables.set name (Table.ofDefinitions name columns)) chosen'
          have hback : (server.set key (tables.set name (Table.ofDefinitions name columns))).set key
              tables = server := by
            rw [Entries.set_set, Entries.set_get?_self (Entries.find?_eq_some chosen).2]
          rw [execute_of_ok _ readsRemoval]
          simp only [run, Current.find, hfound, bind_ok, Database.run, Database.drop, hresolve,
            Entries.erase_set_of_not_mem _ (Entries.not_mem_of_free free), hback]
          rfl

/-- A column that was added is dropped in any spelling of its name. In between it is the last column of
its table, with nothing in every row. -/
theorem dropColumn_addition {name name' column key stored : String} {type : List Char} {table : Table}
    (writes : Statement.WritesAddition name column type creation)
    (writesRemoval : Statement.WritesRemoval name' other removal)
    (same : sameName column other = true)
    (targets : (Statement.alterTable name (.add column (String.ofList type))).Targets server current
      key stored table)
    (targets' : (Statement.alterTable name' (.drop other)).Targets server current' key stored table)
    (hrows : ∀ row ∈ table.rows, column ∉ row.keys) (unnamed : Shape.droppedColumn? type = none)
    (created : server.execute current creation = (.ok answer, after)) :
    answer = .done s!"Column '{column}' added." none ∧
      (∃ added, after.tableAt? key stored = some added ∧
        added.schema = table.schema ++ [Table.newColumn column (String.ofList type)] ∧
        added.rows = table.rows.map (· ++ [(column, .null)])) ∧
      after.execute current' removal =
        (.ok (.done s!"Column '{column}' dropped." none), server) := by
  have reads := Statement.read_addition writes
  rw [unnamed] at reads
  have hperform : table.perform (.alterTable name (.add column (String.ofList type))) =
      table.addColumn column (String.ofList type) := rfl
  rw [execute_of_targets reads targets, hperform] at created
  cases hadd : table.addColumn column (String.ofList type) with
  | error fault =>
      rw [hadd] at created
      cases created
  | ok performed =>
      obtain ⟨answered, added⟩ := performed
      rw [hadd] at created
      cases created
      obtain ⟨-, hanswer, hadded⟩ := Table.addColumn_eq_ok hadd
      refine ⟨hanswer, ⟨added, (targets.setTable_self added).tableAt?, by rw [hadded]; rfl, ?_⟩, ?_⟩
      · rw [hadded]
        exact List.map_congr_left fun row hrow => Entries.set_of_not_mem _ (hrows row hrow)
      · rw [execute_of_perform (Statement.read_removal writesRemoval) (targets'.setTable_self added)
          (Table.dropColumn_addColumn hadd same hrows), setTable_setTable, targets.setTable_eq_self]

/-- What was created is removed in any spelling of its name, and then the server is exactly what it was
before. So it is with databases and with the tables of a database. It is so with columns if no row had a
cell of the name and no column to drop is named in the type; in between the column is the last one of its
table, with nothing in every row. A column to drop that is named in the type is dropped, and no column
is added. -/
theorem removal_undoes_creation (server : Server) :
    (∀ current current' creation removal name other answer after,
      Statement.read creation = .ok (.createDatabase name) →
      Statement.read removal = .ok (.dropDatabase other) → sameName name other = true →
      server.execute current creation = (.ok answer, after) →
      after.execute current' removal =
        (.ok (.done s!"Database '{other}' dropped." none), server)) ∧
    (∀ given given' key tables creation removal name other columns answer after,
      server.find? given = some (key, tables) → server.find? given' = some (key, tables) →
      Statement.read creation = .ok (.createTable name columns) →
      Statement.read removal = .ok (.dropTable other) → sameName name other = true →
      server.execute (.named given) creation = (.ok answer, after) →
      after.execute (.named given') removal =
        (.ok (.done s!"Table '{other}' dropped." none), server)) ∧
    ∀ current current' key stored table creation removal name name' column other type,
      Statement.WritesAddition name column type creation →
      Statement.WritesRemoval name' other removal → sameName column other = true →
      (Statement.alterTable name (.add column (String.ofList type))).Targets server current key stored
        table →
      (Statement.alterTable name' (.drop other)).Targets server current' key stored table →
      (∀ row ∈ table.rows, column ∉ row.keys) →
      (Shape.droppedColumn? type = none → ∀ answer after,
        server.execute current creation = (.ok answer, after) →
        answer = .done s!"Column '{column}' added." none ∧
          (∃ added, after.tableAt? key stored = some added ∧
            added.schema = table.schema ++ [Table.newColumn column (String.ofList type)] ∧
            added.rows = table.rows.map (· ++ [(column, .null)])) ∧
          after.execute current' removal =
            (.ok (.done s!"Column '{column}' dropped." none), server)) ∧
      ∀ dropped, Shape.droppedColumn? type = some dropped →
        Statement.read creation = .ok (.alterTable name (.drop dropped)) := by
  refine ⟨?_, ?_, ?_⟩
  · intro current current' creation removal name other answer after reads readsRemoval same created
    exact dropDatabase_createDatabase reads readsRemoval same created
  · intro given given' key tables creation removal name other columns answer after chosen chosen' reads
      readsRemoval same created
    exact dropTable_createTable chosen chosen' reads readsRemoval same created
  · intro current current' key stored table creation removal name name' column other type writes
      writesRemoval same targets targets' hrows
    refine ⟨fun unnamed answer after created => dropColumn_addition writes writesRemoval same targets
      targets' hrows unnamed created, fun dropped named => ?_⟩
    have reads := Statement.read_addition writes
    rwa [named] at reads

/-- Names that are removed in another spelling, and an added column whose type has a bracket. -/
theorem removal_undoes_creation_of_other_spellings :
    let table := Seed.table "t" [Seed.keyColumn "id" "int"] [[("id", .int 1)], [("id", .int 2)]]
    let server : Server := [("db", [("t", table)])]
    let after (creation : String) := (server.execute (.named "db") creation).2
    (after "CREATE DATABASE Straße").execute (.named "db") "DROP DATABASE STRASSE" =
        (.ok (.done "Database 'STRASSE' dropped." none), server) ∧
      (after "CREATE TABLE Maße (a int)").execute (.named "DB") "DROP TABLE MASSE" =
        (.ok (.done "Table 'MASSE' dropped." none), server) ∧
      ∃ added, (after "ALTER TABLE t ADD COLUMN Größe decimal (10, 2)").tableAt? "db" "t" =
          some added ∧
        added.rows = [[("id", .int 1), ("Größe", .null)], [("id", .int 2), ("Größe", .null)]] ∧
        (after "ALTER TABLE t ADD COLUMN Größe decimal (10, 2)").execute (.named "DB")
          "ALTER TABLE T DROP COLUMN GRÖSSE" =
            (.ok (.done "Column 'Größe' dropped." none), server) := by
  intro table server after
  obtain ⟨hdatabases, htables, hcolumns⟩ := removal_undoes_creation server
  have hcreated {creation : String} (message : String)
      (hanswer : (server.execute (.named "db") creation).1 = .ok (.done message none)) :
      server.execute (.named "db") creation = (.ok (.done message none), after creation) :=
    Prod.ext hanswer rfl
  have chosen : server.find? "DB" = some ("db", [("t", table)]) :=
    Entries.find?_singleton (by decide +kernel) _
  have writes : Statement.WritesAddition "t" "Größe" "decimal (10, 2)".toList
      "ALTER TABLE t ADD COLUMN Größe decimal (10, 2)" := by
    have isType : ColumnDefinition.IsTypeText "decimal (10, 2)".toList :=
      @ColumnDefinition.IsTypeText.bracket "decimal".toList [' '] "10, 2".toList (by decide)
        (by decide) (by decide +kernel) (by decide)
    exact @Statement.writesAddition_of_parts _ _ _ _ "ALTER TABLE t".toList
      "ADD COLUMN Größe".toList (by decide +kernel) (by decide +kernel) (by decide +kernel) isType
  have writesRemoval : Statement.WritesRemoval "T" "GRÖSSE" "ALTER TABLE T DROP COLUMN GRÖSSE" :=
    @Statement.writesRemoval_of_parts _ _ _ "ALTER TABLE T".toList "DROP COLUMN GRÖSSE".toList
      (by decide +kernel) (by decide +kernel) (by decide +kernel)
  have targets : (Statement.alterTable "t"
      (.add "Größe" (String.ofList "decimal (10, 2)".toList))).Targets server (.named "db") "db" "t"
        table :=
    ⟨rfl, "db", "t", [("t", table)], rfl, rfl, rfl, rfl⟩
  have targets' : (Statement.alterTable "T" (.drop "GRÖSSE")).Targets server (.named "DB") "db" "t"
      table :=
    ⟨rfl, "DB", "T", [("t", table)], rfl, rfl, chosen,
      Entries.find?_singleton (by decide +kernel) table⟩
  obtain ⟨hundone, -⟩ := hcolumns _ _ _ _ _ _ _ _ _ _ _ _ writes writesRemoval (by decide +kernel)
    targets targets' (by decide)
  obtain ⟨-, ⟨added, hadded, -, hrows⟩, hremoval⟩ :=
    hundone (by decide +kernel) _ _ (hcreated "Column 'Größe' added." (by decide +kernel))
  refine ⟨?_, ?_, added, hadded, hrows, hremoval⟩
  · exact hdatabases _ _ _ _ "Straße" "STRASSE" _ _ (by decide +kernel) (by decide +kernel)
      (by decide +kernel) (hcreated "Database 'Straße' created." (by decide +kernel))
  · exact htables "db" "DB" "db" _ _ _ "Maße" "MASSE" [{ name := "a", type := "int" }] _ _ rfl chosen
      (by decide +kernel) (by decide +kernel) (by decide +kernel)
      (hcreated "Table 'Maße' created." (by decide +kernel))

/-- The quoted value of an enumeration names a column to drop. The addition drops that column, and
dropping the column of the addition brings nothing back. -/
theorem addition_drops_a_column :
    let table := Seed.table "t" [Seed.keyColumn "id" "int"] [[("id", .int 1)]]
    let server : Server := [("db", [("t", table)])]
    let creation := "ALTER TABLE t ADD COLUMN c enum('drop column id')"
    let removal := "ALTER TABLE t DROP COLUMN c"
    let added := server.execute (.named "db") creation
    let removed := added.2.execute (.named "db") removal
    Statement.WritesAddition "t" "c" "enum('drop column id')".toList creation ∧
      Statement.WritesRemoval "t" "c" removal ∧
      (∀ row ∈ table.rows, "c" ∉ row.keys) ∧
      added.1 = .ok (.done "Column 'id' dropped." none) ∧
      removed.1 = .ok (.done "Column 'c' dropped." none) ∧
      (removed.2.tableAt? "db" "t").map Table.rows = some [[]] ∧
      removed.2 ≠ server := by
  intro table server creation removal added removed
  have hrows : (removed.2.tableAt? "db" "t").map Table.rows = some [[]] := by decide +kernel
  refine ⟨?_, ?_, by decide, by decide +kernel, by decide +kernel, hrows, ?_⟩
  · have isType : ColumnDefinition.IsTypeText "enum('drop column id')".toList :=
      @ColumnDefinition.IsTypeText.bracket "enum".toList [] "'drop column id'".toList (by decide)
        (by decide) (by decide) (by decide)
    exact @Statement.writesAddition_of_parts _ _ _ _ "ALTER TABLE t".toList "ADD COLUMN c".toList
      (by decide +kernel) (by decide +kernel) (by decide +kernel) isType
  · exact @Statement.writesRemoval_of_parts _ _ _ "ALTER TABLE t".toList "DROP COLUMN c".toList
      (by decide +kernel) (by decide +kernel) (by decide +kernel)
  · intro restored
    rw [restored] at hrows
    exact absurd hrows (by decide)

end Server

end MockSql
