/-
# Servers whose answers can be written

An integer with too many digits cannot be written, and so neither can an answer that holds one. The
integers of an answer are cells of a selected table, and numbers of rows. So a server that holds
none of these with too many digits answers every query with something that can be written.
-/

import MockSql.Proofs.Steps
import MockSql.Report
import MockSql.Seed

namespace MockSql

/-- An integer can be written when its size is below a power of ten. -/
theorem Number.isPrintable_iff {n : Int} :
    Number.isPrintable n = true ↔ n.natAbs < Nat.pow 10 digitLimit := by
  have hlimit : 0 < digitLimit := by decide
  rw [Number.isPrintable, decide_eq_true_iff]
  generalize digitLimit = limit at hlimit ⊢
  exact Nat.length_toDigits_le_iff (by decide) hlimit

/-- A smaller whole number has no more digits. -/
theorem Number.isPrintable_of_le {m n : Nat} (hle : m ≤ n)
    (printable : Number.isPrintable n = true) : Number.isPrintable m = true :=
  Number.isPrintable_iff.mpr (Nat.lt_of_le_of_lt hle (Number.isPrintable_iff.mp printable))

/-- Whether a value is no integer with too many digits. -/
def Value.isPrintable (value : Value) : Bool :=
  (Json.scalar value).isWritable

/-- Only an integer with too many digits has no text. -/
theorem Value.exists_toText_iff {value : Value} :
    (∃ text, value.toText = .ok text) ↔ value.isPrintable = true := by
  cases value with
  | int n =>
      have hvalue : (Value.int n).isPrintable = Number.isPrintable n := rfl
      rw [hvalue, Value.toText, intText]
      split
      next printable => simp [printable]
      next unwritable => simp [unwritable]
  | null | bool | double | text => exact ⟨fun _ => rfl, fun _ => ⟨_, rfl⟩⟩

/-- A row without an integer that has too many digits. -/
def Row.IsPrintable (row : Row) : Prop :=
  ∀ cell ∈ row, cell.2.isPrintable = true

instance (row : Row) : Decidable row.IsPrintable :=
  inferInstanceAs (Decidable (∀ cell ∈ row, cell.2.isPrintable = true))

/-- A table whose rows, and whose number of rows, can be written. -/
structure Table.IsPrintable (table : Table) : Prop where
  rows : ∀ row ∈ table.rows, row.IsPrintable
  count : Number.isPrintable table.rows.length = true

instance (table : Table) : Decidable table.IsPrintable :=
  decidable_of_iff ((∀ row ∈ table.rows, row.IsPrintable) ∧
    Number.isPrintable table.rows.length = true) ⟨fun ⟨h, h'⟩ => ⟨h, h'⟩, fun ⟨h, h'⟩ => ⟨h, h'⟩⟩

/-- A server whose tables, and whose number of databases, can be written. -/
structure Server.IsPrintable (server : Server) : Prop where
  tables : ∀ database ∈ server, ∀ table ∈ database.2, table.2.IsPrintable
  count : Number.isPrintable server.length = true

instance (server : Server) : Decidable server.IsPrintable :=
  decidable_of_iff ((∀ database ∈ server, ∀ table ∈ database.2, table.2.IsPrintable) ∧
    Number.isPrintable server.length = true) ⟨fun ⟨h, h'⟩ => ⟨h, h'⟩, fun ⟨h, h'⟩ => ⟨h, h'⟩⟩

/-- An answer whose cells and counts can be written. -/
def Answer.IsPrintable : Answer → Prop
  | .rows _ selected total =>
    (∀ row ∈ selected, row.IsPrintable) ∧
      ∀ count ∈ total, Number.isPrintable (Int.ofNat count) = true
  | .done _ affected => ∀ count ∈ affected, Number.isPrintable (Int.ofNat count) = true

/-- An answer that only gives a message can be written. -/
theorem Answer.isPrintable_message (message : String) :
    (Answer.done message none).IsPrintable := by
  intro count hcount
  cases hcount

/-- A list of names under one column can be written. -/
theorem Answer.isPrintable_names (column : String) (names : List String) :
    (Answer.rows [column] (names.map fun name => [(column, .text name)]) none).IsPrintable := by
  refine ⟨?_, fun count hcount => nomatch hcount⟩
  intro row hrow
  obtain ⟨name, hname, rfl⟩ := List.mem_map.mp hrow
  intro cell hcell
  cases List.mem_singleton.mp hcell
  rfl

/-- A change of one row affects a number of rows that can be written. -/
theorem Answer.isPrintable_one (message : String) : (Answer.done message (some 1)).IsPrintable := by
  intro count hcount
  cases hcount
  decide

namespace Table

variable {table after : Table} {answer : Answer}

theorem mem_of_mem_page {rows : List Row} {limit : Option Nat} {offset : Nat} {row : Row}
    (hrow : row ∈ page rows limit offset) : row ∈ rows := by
  cases limit with
  | none => exact hrow
  | some count => exact List.mem_of_mem_drop (List.mem_of_mem_take hrow)

/-- The selected rows are rows of the table, in some order. -/
theorem select_isPrintable {selection : Selection} (printable : table.IsPrintable)
    (h : table.select selection = .ok answer) : answer.IsPrintable := by
  have hselected : ∀ rows : List Row, (∀ row ∈ rows, row ∈ table.rows) →
      (do
        let columns ← table.columnNames
        Except.ok (Answer.rows columns (page rows selection.limit selection.offset)
          (some table.rows.length))) = .ok answer → answer.IsPrintable := by
    intro rows hmem h
    obtain ⟨columns, hcolumns, h⟩ := bind_eq_ok_iff.mp h
    cases h
    refine ⟨?_, ?_⟩
    · intro row hrow
      exact printable.rows row (hmem row (mem_of_mem_page hrow))
    · intro count hcount
      cases hcount
      exact printable.count
  unfold select at h
  cases hordering : selection.ordering with
  | none =>
      rw [hordering] at h
      apply hselected table.rows _ h
      intro row hrow
      exact hrow
  | some ordering =>
      rw [hordering] at h
      obtain ⟨key, hkey, h⟩ := bind_eq_ok_iff.mp h
      apply hselected _ _ h
      intro row hrow
      exact List.mem_mergeSort.mp hrow

theorem alter_isPrintable {change : ColumnChange}
    (h : table.alter change = .ok (answer, after)) : answer.IsPrintable := by
  cases change with
  | drop column =>
      obtain ⟨key, hkey, rfl, hafter⟩ := dropColumn_eq_ok h
      exact Answer.isPrintable_message _
  | add column type =>
      obtain ⟨hfree, rfl, hafter⟩ := addColumn_eq_ok h
      exact Answer.isPrintable_message _

/-- No more rows are affected than the table has. -/
theorem delete_isPrintable {deletion : Deletion} (printable : table.IsPrintable)
    (h : table.delete deletion = .ok (answer, after)) : answer.IsPrintable := by
  obtain ⟨key, kept, hkey, hkept, rfl, hafter⟩ := delete_eq_ok h
  intro count hcount
  cases hcount
  exact Number.isPrintable_of_le (Nat.sub_le _ _) printable.count

/-- A statement about the content of a printable table has an answer that can be written. -/
theorem perform_isPrintable {statement : Statement} (printable : table.IsPrintable)
    (h : table.perform statement = .ok (answer, after)) : answer.IsPrintable := by
  cases statement with
  | truncateTable name =>
      cases h
      exact Answer.isPrintable_message _
  | alterTable name change => exact alter_isPrintable h
  | select selection =>
      obtain ⟨selected, hselect, h⟩ := map_eq_ok_iff.mp h
      cases h
      exact select_isPrintable printable hselect
  | insert insertion =>
      obtain ⟨columns, numbered, start, hcolumns, hnumbered, hstart, rfl, hedited⟩ := insert_eq_ok h
      exact Answer.isPrintable_one _
  | update changes =>
      obtain ⟨before, row, rest, hrows, hbefore, hrow, rfl, hedited⟩ := update_eq_ok h
      exact Answer.isPrintable_one _
  | delete deletion => exact delete_isPrintable printable h
  | showDatabases | createDatabase | dropDatabase | use | showTables => cases h
  | createTable | dropTable | renameTable => cases h

end Table

namespace Database

/-- A statement in a database of printable tables has an answer that can be written. -/
theorem run_isPrintable {database after : Database} {given key : String} {statement : Statement}
    {answer : Answer} (printable : ∀ table ∈ database, table.2.IsPrintable)
    (h : database.run given key statement = .ok (answer, after)) : answer.IsPrintable := by
  cases run_eq_ok h with
  | showTables => exact Answer.isPrintable_names _ _
  | createTable | dropTable | renameTable => exact Answer.isPrintable_message _
  | perform isLocal about found performed =>
      exact Table.perform_isPrintable (printable _ (Entries.mem_of_find? found)) performed

end Database

namespace Server

theorem run_isPrintable {server after : Server} {current : Current} {statement : Statement}
    {answer : Answer} (printable : server.IsPrintable)
    (h : server.run current statement = .ok (answer, after)) : answer.IsPrintable := by
  cases run_eq_ok h with
  | showDatabases => exact Answer.isPrintable_names _ _
  | createDatabase | dropDatabase | use => exact Answer.isPrintable_message _
  | inside needs chosen found ran =>
      exact Database.run_isPrintable (printable.tables _ (Entries.mem_of_find? found)) ran

/-- Whatever a printable server answers to a query can be written. -/
theorem execute_isPrintable {server : Server} {current : Current} {query : String}
    {answer : Answer} (printable : server.IsPrintable)
    (h : (server.execute current query).1 = .ok answer) : answer.IsPrintable := by
  unfold execute at h
  split at h
  next given changed hrun =>
    cases h
    obtain ⟨statement, hread, hrun⟩ := bind_eq_ok_iff.mp hrun
    exact run_isPrintable printable hrun
  next => cases h

end Server

end MockSql
