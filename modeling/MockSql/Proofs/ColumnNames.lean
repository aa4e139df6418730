/-
# Names of columns in other spellings

A statement that orders rows, deletes rows or drops a column looks its column up in the schema, so
it does the same in whatever spelling the column is given. An insertion and an update do not look:
they take the names as they are written. In another spelling than the schema's, the predicate of an
update matches no row, and what is inserted or assigned becomes a cell of its own.
-/

import MockSql.Proofs.Entries
import MockSql.Proofs.Operations
import MockSql.Proofs.Steps

namespace MockSql

/-- The first name of a schema that satisfies a condition, if every column has a name. -/
theorem firstName?_eq {schema : List Column} {names : List String}
    (hnames : schema.mapM (·.name) = .ok names) (condition : String → Bool) :
    firstName? condition schema = .ok (names.find? condition) := by
  induction schema generalizing names with
  | nil =>
      cases hnames
      rfl
  | cons column rest ih =>
      obtain ⟨name, others, hname, hothers, rfl⟩ := mapM_cons_eq_ok_iff.mp hnames
      rw [firstName?, hname, bind_ok, ih hothers, List.find?_cons]
      cases condition name <;> rfl

/-- Where no name satisfies a condition, all columns have names. -/
theorem exists_names_of_firstName?_eq_none {schema : List Column} {condition : String → Bool}
    (hnone : firstName? condition schema = .ok none) :
    ∃ names, schema.mapM (·.name) = .ok names ∧ ∀ name ∈ names, condition name = false := by
  induction schema with
  | nil => exact ⟨[], rfl, by simp⟩
  | cons column rest ih =>
      obtain ⟨name, hname, hlater⟩ := bind_eq_ok_iff.mp hnone
      split at hlater
      next => cases hlater
      next hcondition =>
        obtain ⟨names, hnames, hfalse⟩ := ih hlater
        exact ⟨name :: names, mapM_cons_eq_ok_iff.mpr ⟨name, names, hname, hnames, rfl⟩,
          List.forall_mem_cons.mpr ⟨Bool.eq_false_iff.mpr hcondition, hfalse⟩⟩

namespace Table

variable {table : Table} {columns : List String} {column other : String}

/-- A column is found by every spelling of its name if no other column has that name. -/
theorem columnKey_of_unique (hcolumns : table.columnNames = .ok columns) (hcolumn : column ∈ columns)
    (unique : ∀ name ∈ columns, foldedName name = foldedName column → name = column)
    (same : sameName column other = true) : table.columnKey other = .ok column := by
  have hfolded : foldedName column = foldedName other := sameName_iff.mp same
  have hfirst := firstName?_eq hcolumns
  cases hexact : columns.find? (· == other) with
  | some found =>
      have hequal : found = other := by simpa using List.find?_some hexact
      have hstored : column = other :=
        (unique other (hequal ▸ List.mem_of_find?_eq_some hexact) hfolded.symm).symm
      simp only [columnKey, hfirst, hexact, bind_ok, hequal, hstored]
  | none =>
      cases hfold : columns.find? (sameName · other) with
      | none => exact absurd same (List.find?_eq_none.mp hfold column hcolumn)
      | some found =>
          have hsame := List.find?_some hfold
          have hfound : foldedName found = foldedName other := sameName_iff.mp hsame
          have hequal : found = column :=
            unique found (List.mem_of_find?_eq_some hfold) (hfound.trans hfolded.symm)
          simp only [columnKey, hfirst, hexact, bind_ok, hfold, Option.getD_some, hequal]

/-- A column of the schema is found by every spelling of its name. -/
theorem columnKey_eq (hcolumns : table.columnNames = .ok columns) (distinct : DistinctNames columns)
    (hcolumn : column ∈ columns) (same : sameName column other = true) :
    table.columnKey other = .ok column :=
  columnKey_of_unique hcolumns hcolumn
    (fun _ hname hfolded => distinct.eq_of_folded hname hcolumn hfolded) same

section LookedUp

variable (hkey : table.columnKey other = table.columnKey column)
include hkey

theorem select_respell (selection : Selection) (descending : Bool) :
    table.select { selection with ordering := some ⟨other, descending⟩ } =
      table.select { selection with ordering := some ⟨column, descending⟩ } := by
  simp only [select, hkey]

theorem dropColumn_respell : table.dropColumn other = table.dropColumn column := by
  rw [dropColumn, dropColumn, hkey]

theorem delete_respell (name : String) (ids : List Int) :
    table.delete ⟨name, other, ids⟩ = table.delete ⟨name, column, ids⟩ := by
  simp only [delete, hkey]

end LookedUp

/-- A table whose rows have no cells but those of its columns. -/
def IsKeyed (table : Table) (columns : List String) : Prop :=
  ∀ row ∈ table.rows, ∀ name ∈ row.keys, name ∈ columns

/-- No row matches the predicate of an update if none has a cell under its column. -/
theorem update_eq_error {changes : Update}
    (hnone : ∀ row ∈ table.rows, changes.column ∉ Entries.keys row) :
    table.update changes = .error .noMatchingRow := by
  refine update_of_none fun row hrow => ?_
  rw [rowMatches, Entries.get?_eq_none (hnone row hrow)]

/-- An update puts a cell under every name that it assigns, as it is written. -/
theorem update_cell {changes : Update} {after : Table} {answer : Answer}
    (h : table.update changes = .ok (answer, after)) (hassigned : other ∈ changes.assignments.keys) :
    ∃ row ∈ after.rows, other ∈ Entries.keys row := by
  obtain ⟨before, row, rest, hrows, hbefore, hrow, hanswer, rfl⟩ := update_eq_ok h
  exact ⟨row.setAll changes.assignments, by simp, Entries.mem_keys_setAll (.inr hassigned)⟩

/-- An insertion puts a cell under every name that it lists, as it is written. -/
theorem insert_cell {name : String} {listed : List String} {values : List Value} {after : Table}
    {answer : Answer} (h : table.insert ⟨name, some listed, values⟩ = .ok (answer, after))
    (hlisted : other ∈ listed) : ∃ row ∈ after.rows, other ∈ Entries.keys row := by
  obtain ⟨targets, numbered, start, htargets, hnumbered, hstart, hanswer, rfl⟩ := insert_eq_ok h
  cases htargets
  refine ⟨start.setAll (pairCells listed values), by simp [withRows], ?_⟩
  apply Entries.mem_keys_setAll
  rw [keys_pairCells]
  exact .inr hlisted

end Table

/-- The table that a current database has under a name, in any spelling. -/
def Server.target? (server : Server) (current : Current) (name : String) : Option Table :=
  match current.find server with
  | .ok (_, _, tables) => (tables.find? name).map Prod.snd
  | .error _ => none

namespace Server

variable {server after : Server} {current : Current} {name : String} {table : Table}

/-- Where the table stands that a current database has under a name. -/
theorem target?_eq_some (htarget : server.target? current name = some table) :
    ∃ given key tables stored, current.find server = .ok (given, key, tables) ∧
      tables.find? name = some (stored, table) := by
  unfold target? at htarget
  split at htarget
  next given key tables hfind =>
    obtain ⟨⟨stored, found⟩, hstored, rfl⟩ := Option.map_eq_some_iff.mp htarget
    exact ⟨given, key, tables, stored, hfind, hstored⟩
  next => cases htarget

/-- A statement that changes a table where it stands leaves what its change makes of the table. -/
theorem target?_after {statement : Statement} {missing : Fault} {answer : Answer}
    {change : Table → Except Fault (Answer × Table)}
    (htarget : server.target? current name = some table)
    (hneeds : statement.needsDatabase = true)
    (hchange : ∀ tables given key,
      Database.run tables given key statement = tables.onTable name missing change)
    (h : server.run current statement = .ok (answer, after)) :
    ∃ edited, change table = .ok (answer, edited) ∧
      after.target? current name = some edited := by
  obtain ⟨given, key, tables, stored, hfind, hstored⟩ := target?_eq_some htarget
  rw [run_table hneeds, hfind, bind_ok] at h
  obtain ⟨⟨answered, changed⟩, hrun, h⟩ := bind_eq_ok_iff.mp h
  cases h
  rw [hchange] at hrun
  obtain ⟨found, target, edited, hfound, hedited, rfl⟩ := Database.onTable_eq_ok hrun
  cases hstored.symm.trans hfound
  obtain ⟨rfl, hdatabase⟩ := Current.find_eq_ok hfind
  refine ⟨edited, hedited, ?_⟩
  simp only [target?, Current.find, Entries.find?_set _ hdatabase, Entries.find?_set _ hstored,
    Option.map_some]

/-- A statement that orders, deletes or drops does the same in every spelling of a column's name.
An update whose predicate names the column otherwise than the schema matches no row; one that
assigns under such a name, or an insertion that lists it, leaves a cell that belongs to no column. -/
theorem column_spellings {columns : List String} {column other : String}
    (htarget : server.target? current name = some table)
    (hcolumns : table.columnNames = .ok columns) (distinct : DistinctNames columns)
    (keyed : table.IsKeyed columns) (hcolumn : column ∈ columns)
    (same : sameName column other = true) :
    (∀ (selection : Selection) descending, selection.source = some name →
        server.run current (.select { selection with ordering := some ⟨other, descending⟩ }) =
          server.run current (.select { selection with ordering := some ⟨column, descending⟩ })) ∧
      server.run current (.alterTable name (.drop other)) =
        server.run current (.alterTable name (.drop column)) ∧
      (∀ ids, server.run current (.delete ⟨name, other, ids⟩) =
        server.run current (.delete ⟨name, column, ids⟩)) ∧
      (other ∉ columns →
        (∀ assignments value,
          server.run current (.update ⟨name, assignments, other, value⟩) = .error .noMatchingRow) ∧
        (∀ changes answer after, changes.table = name → other ∈ changes.assignments.keys →
          server.run current (.update changes) = .ok (answer, after) →
          ∃ edited, after.target? current name = some edited ∧ ¬edited.IsKeyed columns) ∧
        (∀ listed values answer after, other ∈ listed →
          server.run current (.insert ⟨name, some listed, values⟩) = .ok (answer, after) →
          ∃ edited, after.target? current name = some edited ∧ ¬edited.IsKeyed columns)) := by
  obtain ⟨given, key, tables, stored, hfind, hstored⟩ := target?_eq_some htarget
  have hkey : table.columnKey other = table.columnKey column := by
    rw [Table.columnKey_eq hcolumns distinct hcolumn same,
      Table.columnKey_eq hcolumns distinct hcolumn (sameName_iff.mpr rfl)]
  refine ⟨?_, ?_, ?_, ?_⟩
  · intro selection descending hsource
    have hselect := Table.select_respell hkey selection descending
    rw [hsource] at hselect
    simp only [run, hfind, bind_ok, Database.run, Database.select, hsource, Option.bind_some, hstored,
      hselect]
  · simp only [run, hfind, bind_ok, Database.run, Database.onTable, hstored, Table.alter,
      Table.dropColumn_respell hkey]
  · intro ids
    simp only [run, hfind, bind_ok, Database.run, Database.onTable, hstored,
      Table.delete_respell hkey]
  · intro hother
    refine ⟨?_, ?_, ?_⟩
    · intro assignments value
      have hupdate := @Table.update_eq_error table ⟨name, assignments, other, value⟩
        fun row hrow hcell => hother (keyed row hrow other hcell)
      simp only [run, hfind, bind_ok, Database.run, Database.onTable, hstored, hupdate, bind_error]
    · rintro changes answer after rfl hassigned h
      obtain ⟨edited, hedited, hafter⟩ := target?_after htarget rfl (fun _ _ _ => rfl) h
      obtain ⟨row, hrow, hcell⟩ := Table.update_cell hedited hassigned
      exact ⟨edited, hafter, fun hkeyed => hother (hkeyed row hrow other hcell)⟩
    · intro listed values answer after hlisted h
      obtain ⟨edited, hedited, hafter⟩ := target?_after htarget rfl (fun _ _ _ => rfl) h
      obtain ⟨row, hrow, hcell⟩ := Table.insert_cell hedited hlisted
      exact ⟨edited, hafter, fun hkeyed => hother (hkeyed row hrow other hcell)⟩

/-- A row with the number 1 in its only column, which statements may also spell in capitals. -/
theorem column_spellings_of_capitals :
    let table : Table := { Table.ofDefinitions "t" [{ name := "id", type := "int" }] with
      rowCount := 1, rows := [[("id", .int 1)]] }
    let server : Server := [("db", [("t", table)])]
    server.target? (.named "db") "t" = some table ∧ table.columnNames = .ok ["id"] ∧
      DistinctNames ["id"] ∧ table.IsKeyed ["id"] ∧ sameName "id" "ID" = true ∧
      server.run (.named "db") (.delete ⟨"t", "ID", [1]⟩) =
        server.run (.named "db") (.delete ⟨"t", "id", [1]⟩) ∧
      server.run (.named "db") (.update ⟨"t", [("id", .int 2)], "ID", .int 1⟩) =
        .error .noMatchingRow := by
  intro table server
  have htarget : server.target? (.named "db") "t" = some table := rfl
  have hcolumns : table.columnNames = .ok ["id"] := rfl
  have distinct : DistinctNames ["id"] := by decide
  have keyed : table.IsKeyed ["id"] := by
    intro row hrow name hname
    cases List.mem_singleton.mp hrow
    exact hname
  have same : sameName "id" "ID" = true := by decide +kernel
  obtain ⟨-, -, hdelete, hwritten⟩ :=
    column_spellings htarget hcolumns distinct keyed List.mem_cons_self same
  exact ⟨htarget, hcolumns, distinct, keyed, same, hdelete [1],
    (hwritten (by decide)).1 _ _⟩

/-- The same update finds its row under the schema's spelling of a column and not under another, and
the same insertion puts its value under the schema's spelling or under the other. -/
theorem spelling_changes_update_and_insertion :
    let table : Table := { Table.ofDefinitions "t" [{ name := "id", type := "int" }] with
      rowCount := 1, rows := [[("id", .int 1)]] }
    let server : Server := [("db", [("t", table)])]
    let rowsAfter (query : String) :=
      ((server.execute (.named "db") query).2.target? (.named "db") "t").map (·.rows)
    table.columnNames = .ok ["id"] ∧ sameName "id" "ID" = true ∧
      (server.execute (.named "db") "UPDATE t SET id = 2 WHERE id = 1").1.isOk = true ∧
      (server.execute (.named "db") "UPDATE t SET id = 2 WHERE ID = 1").1.isOk = false ∧
      rowsAfter "INSERT INTO t (id) VALUES (2)" = some [[("id", .int 1)], [("id", .int 2)]] ∧
      rowsAfter "INSERT INTO t (ID) VALUES (2)" = some [[("id", .int 1)], [("ID", .int 2)]] := by
  intro table server rowsAfter
  exact ⟨rfl, by decide +kernel, by decide +kernel, by decide +kernel, by decide +kernel,
    by decide +kernel⟩

end Server

end MockSql
