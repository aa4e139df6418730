/-
# Where numbering leaves what can be written

Integers come into rows in three ways. Those of an insertion and of an update are read, so they have
no more digits than may be written. The number of a new row is computed, and nothing limits it: if a
cell of the numbered column holds the greatest integer that can be written, the new row gets one
that cannot, and no text can be made of the row any more. This is the only way in which it happens.
-/

import Mathlib.Control.Monad.Basic
import MockSql.Proofs.Numbering
import MockSql.Proofs.StoredRows
import MockSql.Seed

namespace MockSql

open Number

namespace Table

variable {table after : Table} {answer : Answer}

/-- An insertion is numbered, and a row holds the greatest integer that can be written where the new
row gets its number. -/
def NumbersPastLimit (table : Table) (insertion : Insertion) : Prop :=
  ∃ columns key, table.targetColumns insertion = .ok columns ∧
    table.numberedKey? columns = .ok (some key) ∧
    (∃ row ∈ table.rows, row.cell key = .int greatestPrintable) ∧
    ∀ row ∈ table.rows, (row.cell key).number? ≠ some infinity

theorem numbersPastLimit_iff {insertion : Insertion} {columns : List String} {key : String}
    (hcolumns : table.targetColumns insertion = .ok columns)
    (hkey : table.numberedKey? columns = .ok (some key)) :
    table.NumbersPastLimit insertion ↔
      (∃ row ∈ table.rows, row.cell key = .int greatestPrintable) ∧
        ∀ row ∈ table.rows, (row.cell key).number? ≠ some infinity := by
  constructor
  · rintro ⟨columns', key', hcolumns', hkey', past⟩
    cases hcolumns.symm.trans hcolumns'
    cases hkey.symm.trans hkey'
    exact past
  · intro past
    exact ⟨columns, key, hcolumns, hkey, past⟩

/-- A column is numbered only if the insertion does not set it. -/
theorem not_mem_of_numberedKey? {columns : List String} {key : String}
    (h : table.numberedKey? columns = .ok (some key)) : key ∉ columns := by
  unfold numberedKey? at h
  split at h
  next => cases h
  next column hcolumn =>
    split at h
    next =>
      obtain ⟨name, hname, h⟩ := bind_eq_ok_iff.mp h
      split at h
      next => cases h
      next hfree =>
        cases h
        exact fun hmem => hfree (List.contains_iff_mem.mpr hmem)
    next => cases h

/-- Such an insertion succeeds. -/
theorem NumbersPastLimit.insert {insertion : Insertion} (past : table.NumbersPastLimit insertion) :
    ∃ result, table.insert insertion = .ok result := by
  obtain ⟨columns, key, hcolumns, hkey, -, finite⟩ := past
  obtain ⟨id, hid⟩ := exists_nextId_iff.mpr finite
  simp only [Table.insert, hcolumns, hkey, hid, bind_ok]
  exact ⟨_, rfl⟩

/-- Where all cells can be written, the row of an insertion can unless it is numbered past the
limit. -/
theorem insert_isPrintable_iff {insertion : Insertion}
    (printable : ∀ row ∈ table.rows, row.IsPrintable)
    (hvalues : ∀ value ∈ insertion.values, value.isPrintable = true)
    (h : table.insert insertion = .ok (answer, after)) :
    (∀ row ∈ after.rows, row.IsPrintable) ↔ ¬table.NumbersPastLimit insertion := by
  obtain ⟨columns, numbered, start, hcolumns, hnumbered, hstart, -, rfl⟩ := insert_eq_ok h
  have hcells := Row.isPrintable_pairCells columns hvalues
  have hrows : (∀ row ∈ (table.withRows
        (table.rows ++ [start.setAll (pairCells columns insertion.values)])).rows,
        row.IsPrintable) ↔
      Row.IsPrintable (start.setAll (pairCells columns insertion.values)) := by
    simp only [withRows, List.forall_mem_append, List.forall_mem_singleton]
    exact and_iff_right printable
  rw [hrows]
  cases numbered with
  | none =>
      cases hstart
      refine iff_of_true (Row.IsPrintable.setAll (fun cell hcell => nomatch hcell) hcells) ?_
      rintro ⟨columns', key, hcolumns', hkey, -⟩
      cases hcolumns.symm.trans hcolumns'
      cases hnumbered.symm.trans hkey
  | some key =>
      obtain ⟨id, hid, rfl⟩ := hstart
      have hfree : key ∉ (pairCells columns insertion.values).keys := by
        rw [keys_pairCells]
        exact not_mem_of_numberedKey? hnumbered
      rw [Row.isPrintable_numbered hfree hcells, nextId_isPrintable_iff printable hid,
        numbersPastLimit_iff hcolumns hnumbered, and_iff_left (exists_nextId_iff.mp ⟨id, hid⟩)]
      simp only [not_exists, not_and, Ne]

theorem alter_rows_isPrintable {change : ColumnChange}
    (printable : ∀ row ∈ table.rows, row.IsPrintable)
    (h : table.alter change = .ok (answer, after)) : ∀ row ∈ after.rows, row.IsPrintable := by
  cases change with
  | drop column =>
      obtain ⟨key, -, -, rfl⟩ := dropColumn_eq_ok h
      exact List.forall_mem_map.mpr fun row hrow => (printable row hrow).erase key
  | add column type =>
      obtain ⟨-, -, rfl⟩ := addColumn_eq_ok h
      exact List.forall_mem_map.mpr fun row hrow => (printable row hrow).set column rfl

theorem update_rows_isPrintable {changes : Update}
    (printable : ∀ row ∈ table.rows, row.IsPrintable) (hassigned : changes.assignments.IsPrintable)
    (h : table.update changes = .ok (answer, after)) : ∀ row ∈ after.rows, row.IsPrintable := by
  obtain ⟨before, row, rest, hrows, -, -, -, rfl⟩ := update_eq_ok h
  simp only [hrows, List.forall_mem_append, List.forall_mem_cons] at printable ⊢
  obtain ⟨hbefore, hrow, hrest⟩ := printable
  exact ⟨hbefore, hrow.setAll hassigned, hrest⟩

/-- Where all cells can be written, they can after a statement unless it is an insertion that is
numbered past the limit. -/
theorem perform_isPrintable_iff {statement : Statement} (readable : statement.Readable)
    (printable : ∀ row ∈ table.rows, row.IsPrintable)
    (h : table.perform statement = .ok (answer, after)) :
    (∀ row ∈ after.rows, row.IsPrintable) ↔
      ¬∃ insertion, statement = .insert insertion ∧ table.NumbersPastLimit insertion := by
  cases statement with
  | insert insertion =>
      rw [insert_isPrintable_iff printable readable.insert_isPrintable h]
      simp
  | truncateTable name =>
      cases h
      exact iff_of_true (fun row hrow => nomatch hrow) (by simp)
  | alterTable name change =>
      exact iff_of_true (alter_rows_isPrintable printable h) (by simp)
  | select selection =>
      obtain ⟨selected, -, h⟩ := map_eq_ok_iff.mp h
      cases h
      exact iff_of_true printable (by simp)
  | update changes =>
      exact iff_of_true (update_rows_isPrintable printable readable.update_isPrintable h) (by simp)
  | delete deletion =>
      obtain ⟨key, kept, -, hkept, -, rfl⟩ := delete_eq_ok h
      have hsub := rowsWithout_sublist hkept
      exact iff_of_true (fun row hrow => printable row (hsub.subset hrow)) (by simp)
  | showDatabases | createDatabase | dropDatabase | use | showTables => cases h
  | createTable | dropTable | renameTable => cases h

end Table

namespace Server

variable {server : Server} {current : Current} {query : String}

/-- A text is an insertion that is numbered past the limit. -/
def NumbersPastLimit (server : Server) (current : Current) (query : String) : Prop :=
  ∃ insertion key stored table, Statement.read query = .ok (.insert insertion) ∧
    (Statement.insert insertion).Targets server current key stored table ∧
    table.NumbersPastLimit insertion

/-- This happens only where the greatest integer that can be written is stored. -/
theorem NumbersPastLimit.exists_cell (past : server.NumbersPastLimit current query) :
    ∃ row ∈ server.rows, ∃ cell ∈ row, cell.2 = .int greatestPrintable := by
  obtain ⟨insertion, key, stored, table, -, targets, past⟩ := past
  obtain ⟨columns, column, -, -, ⟨row, hrow, hcell⟩, -⟩ := past
  obtain ⟨tables, -, hrows⟩ := targets.rows
  refine ⟨row, hrows hrow, ?_⟩
  cases hget : row.get? column with
  | none =>
      rw [Row.cell, hget] at hcell
      cases hcell
  | some value =>
      rw [Row.cell, hget] at hcell
      exact ⟨(column, value), Entries.mem_of_get? hget, hcell⟩

/-- Where all rows can be written, they can with another table in the place of one exactly if the
rows of that table can. -/
theorem setTable_isPrintable_iff {key stored : String} {tables : Database} {table : Table}
    (hget : server.get? key = some tables) (printable : ∀ row ∈ server.rows, row.IsPrintable) :
    (∀ row ∈ (server.setTable key stored table).rows, row.IsPrintable) ↔
      ∀ row ∈ table.rows, row.IsPrintable := by
  rw [setTable_eq hget]
  constructor
  · intro hall row hrow
    exact hall row (Entries.subset_gather_set (Entries.subset_gather_set hrow))
  · intro htable row hrow
    have hfrom : Server.rows (server.set key (tables.set stored table)) ⊆
        table.rows ++ server.rows :=
      Entries.gather_set_subset
        (Entries.gather_set_subset (List.subset_append_left _ _)
          (List.subset_append_of_subset_right _ (Entries.subset_gather hget)))
        (List.subset_append_right _ _)
    rcases List.mem_append.mp (hfrom hrow) with hnew | hold
    · exact htable row hnew
    · exact printable row hold

/-- Where all rows can be written, they can after a text is executed unless it is an insertion that
is numbered past the limit. -/
theorem execute_isPrintable_iff (printable : ∀ row ∈ server.rows, row.IsPrintable)
    (current : Current) (query : String) :
    (∀ row ∈ Server.rows (server.execute current query).2, row.IsPrintable) ↔
      ¬server.NumbersPastLimit current query := by
  by_cases targeted : ∃ statement key stored table, Statement.read query = .ok statement ∧
      statement.Targets server current key stored table
  · obtain ⟨statement, key, stored, table, hread, targets⟩ := targeted
    have hpast : server.NumbersPastLimit current query ↔
        ∃ insertion, statement = .insert insertion ∧ table.NumbersPastLimit insertion := by
      constructor
      · rintro ⟨insertion, key', stored', table', hinsert, targets', past⟩
        cases hread.symm.trans hinsert
        obtain ⟨-, -, rfl⟩ := targets.unique targets'
        exact ⟨insertion, rfl, past⟩
      · rintro ⟨insertion, rfl, past⟩
        exact ⟨insertion, key, stored, table, hread, targets, past⟩
    rw [hpast, execute_of_targets hread targets]
    obtain ⟨tables, hget, hrows⟩ := targets.rows
    cases hperform : table.perform statement with
    | error fault =>
        refine iff_of_true printable ?_
        rintro ⟨insertion, rfl, past⟩
        obtain ⟨result, hinsert⟩ := past.insert
        cases hperform.symm.trans hinsert
    | ok performed =>
        have htable : ∀ row ∈ table.rows, row.IsPrintable := fun row hrow =>
          printable row (hrows hrow)
        exact (setTable_isPrintable_iff hget printable).trans
          (Table.perform_isPrintable_iff ⟨query, hread⟩ htable hperform)
  · refine iff_of_true (fun row hrow => printable row (execute_rows_subset ?_ hrow)) ?_
    · rintro statement hread ⟨key, stored, table, targets⟩
      exact targeted ⟨statement, key, stored, table, hread, targets⟩
    · rintro ⟨insertion, key, stored, table, hread, targets, -⟩
      exact targeted ⟨_, key, stored, table, hread, targets⟩

end Server

namespace Store

/-- An event is an insertion that is numbered past the limit. -/
def NumbersPastLimit (store : Store) : Event → Prop
  | .statement current query => store.server.NumbersPastLimit current query
  | _ => False

/-- A store whose rows, and those of its seed, can be written. -/
structure RowsPrintable (store : Store) : Prop where
  seed : ∀ row ∈ store.seed.rows, row.IsPrintable
  server : ∀ row ∈ store.server.rows, row.IsPrintable

theorem rowsPrintable_iff {store : Store} {seed : Server} (hseed : store.seed = seed)
    (printable : ∀ row ∈ seed.rows, row.IsPrintable) :
    store.RowsPrintable ↔ ∀ row ∈ store.server.rows, row.IsPrintable :=
  ⟨fun h => h.server, fun h => ⟨hseed ▸ printable, h⟩⟩

/-- Where all rows can be written, they can after an event unless it is an insertion that is
numbered past the limit. -/
theorem after_rowsPrintable_iff {store : Store} (event : Event) (printable : store.RowsPrintable) :
    (store.after event).RowsPrintable ↔ ¬store.NumbersPastLimit event := by
  rw [rowsPrintable_iff (store.seed_after event) printable.seed]
  cases hevent : event.isStatement with
  | true =>
      cases event with
      | statement current query =>
          exact Server.execute_isPrintable_iff printable.server current query
      | createDatabase | dropDatabase | deleteTable | renameTable | reset => cases hevent
  | false =>
      have hnot : ¬store.NumbersPastLimit event := by
        cases event with
        | statement => cases hevent
        | createDatabase | dropDatabase | deleteTable | renameTable | reset => exact id
      refine iff_of_true ?_ hnot
      intro row hrow
      rcases List.mem_append.mp ((store.after_effect event).rows_subset hevent hrow) with hseed | hserver
      · exact printable.seed row hseed
      · exact printable.server row hserver

/-- From a seed whose integers can be written, every integer in a row stays one that can be written,
and every cell has a text, exactly as long as no row is numbered past the limit. -/
theorem integers_stay_printable_iff {seed : Server}
    (printable : ∀ row ∈ seed.rows, row.IsPrintable) (events : List Event) :
    (∀ done, done <+: events → ∀ row ∈ ((Store.ofSeed seed).afterAll done).server.rows,
      row.IsPrintable ∧ ∀ cell ∈ row, ∃ text, cell.2.toText = .ok text) ↔
      ∀ done event, done ++ [event] <+: events →
        ¬((Store.ofSeed seed).afterAll done).NumbersPastLimit event := by
  have htexts {row : Row} : (row.IsPrintable ∧ ∀ cell ∈ row, ∃ text, cell.2.toText = .ok text) ↔
      row.IsPrintable :=
    and_iff_left_of_imp fun hrow cell hcell => Value.exists_toText_iff.mpr (hrow cell hcell)
  have hrows (done : List Event) := rowsPrintable_iff (seed_afterAll (ofSeed seed) done) printable
  simp only [htexts, ← hrows]
  exact along_run_iff after_rowsPrintable_iff ⟨printable, printable⟩ events

/-- A server with one row, which has a number. -/
def oneRow (id : Int) : Server :=
  [("db", [("t", Seed.table "t" [Seed.keyColumn "id" "int", Seed.plainColumn "a" "int"]
    [[("id", .int id), ("a", .int 1)]])])]

theorem oneRow_isPrintable {id : Int} (hid : isPrintable id = true) :
    ∀ row ∈ (oneRow id).rows, row.IsPrintable := by
  have hone : isPrintable 1 = true := by decide
  exact List.forall_mem_singleton.mpr
    (List.forall_mem_cons.mpr ⟨hid, List.forall_mem_singleton.mpr hone⟩)

theorem greatest_isPrintable : isPrintable greatestPrintable = true :=
  (isPrintable_iff_le (Int.natCast_nonneg _)).mpr (Int.le_refl _)

/-- The last number that can be written is given to a row. -/
theorem integers_stay_printable_iff_of_last :
    let seed := oneRow (greatestPrintable - 1)
    let insertion := Event.statement (.named "db") "INSERT INTO t (a) VALUES (2)"
    (∀ row ∈ seed.rows, row.IsPrintable) ∧
      ∀ row ∈ ((Store.ofSeed seed).afterAll [insertion]).server.rows,
        row.IsPrintable ∧ ∀ cell ∈ row, ∃ text, cell.2.toText = .ok text := by
  intro seed insertion
  have hpositive : 2 < greatestPrintable := by decide +kernel
  have hseed : ∀ row ∈ seed.rows, row.IsPrintable :=
    oneRow_isPrintable ((isPrintable_iff_le (by omega)).mpr (by omega))
  refine ⟨hseed, (integers_stay_printable_iff hseed [insertion]).mpr ?_ _ (List.prefix_refl _)⟩
  intro done event hdone past
  obtain ⟨rfl, rfl⟩ : done = [] ∧ event = insertion := by
    cases done with
    | nil => simpa using hdone
    | cons first rest => simp [List.cons_prefix_cons] at hdone
  obtain ⟨row, hrow, cell, hcell, heq⟩ := past.exists_cell
  cases List.mem_singleton.mp hrow
  rcases List.mem_cons.mp hcell with rfl | hcell
  · have hid : (greatestPrintable : Int) - 1 = greatestPrintable := Value.int.inj heq
    omega
  · cases List.mem_singleton.mp hcell
    have ha : (1 : Int) = greatestPrintable := Value.int.inj heq
    omega

/-- From a seed whose integers can be written, one insertion stores an integer that has no text. -/
theorem numbering_leaves_the_limit :
    let seed := oneRow greatestPrintable
    let insertion := Event.statement (.named "db") "INSERT INTO t (a) VALUES (2)"
    (∀ row ∈ seed.rows, row.IsPrintable) ∧
      ∃ row ∈ ((Store.ofSeed seed).afterAll [insertion]).server.rows, ∃ cell ∈ row,
        ¬cell.2.isPrintable = true ∧ ¬∃ text, cell.2.toText = .ok text := by
  intro seed insertion
  have hseed : ∀ row ∈ seed.rows, row.IsPrintable := oneRow_isPrintable greatest_isPrintable
  have hread : Statement.read "INSERT INTO t (a) VALUES (2)" =
      .ok (.insert ⟨"t", some ["a"], [.int 2]⟩) := by decide +kernel
  have targets : (Statement.insert ⟨"t", some ["a"], [.int 2]⟩).Targets seed (.named "db") "db" "t"
      (Seed.table "t" [Seed.keyColumn "id" "int", Seed.plainColumn "a" "int"]
        [[("id", .int greatestPrintable), ("a", .int 1)]]) :=
    ⟨rfl, "db", "t", _, rfl, rfl, rfl, rfl⟩
  have past : seed.NumbersPastLimit (.named "db") "INSERT INTO t (a) VALUES (2)" := by
    refine ⟨_, _, _, _, hread, targets, ["a"], "id", rfl, rfl, ⟨_, List.mem_cons_self, rfl⟩, ?_⟩
    intro row hrow
    have hcell : row.cell "id" = .int greatestPrintable := List.mem_singleton.mp hrow ▸ rfl
    rw [hcell]
    exact Value.number?_int_ne_infinity _
  have hafter : ¬((Store.ofSeed seed).afterAll [insertion]).RowsPrintable :=
    mt (after_rowsPrintable_iff insertion ⟨hseed, hseed⟩).mp (not_not_intro past)
  rw [rowsPrintable_iff (seed_afterAll _ _) hseed] at hafter
  simp only [Row.IsPrintable, Classical.not_forall] at hafter
  obtain ⟨row, hrow, cell, hcell, hprintable⟩ := hafter
  exact ⟨hseed, row, hrow, cell, hcell, hprintable, mt Value.exists_toText_iff.mp hprintable⟩

end Store

end MockSql
