/-
# The first match of an update

An update changes the first row whose cell equals the value that is looked for, and no other. In that
row the assigned columns take their values where they stand, and new columns come at the end. If no row
matches, nothing changes. An update that does not set the column it looks in finds the same row again,
and then it changes nothing more.
-/

import MockSql.Proofs.FreshIds
import MockSql.Proofs.LooseEquality
import MockSql.Proofs.PrintableLiterals

namespace MockSql

/-- An update finds a row that has a cell in its column if the cell equals its value. -/
def Update.Finds (changes : Update) (row : Row) : Prop :=
  ∃ cell, row.get? changes.column = some cell ∧ cell.looseEquals changes.value = .ok true

/-- An update that is read sets no column twice. -/
theorem Statement.Readable.nodup_assignments {changes : Update}
    (readable : (Statement.update changes).Readable) : changes.assignments.keys.Nodup := by
  cases readable.origin with
  | update table column list literal assignments_eq value_eq =>
      obtain ⟨cells, -, hcells⟩ := bind_eq_ok_iff.mp assignments_eq
      cases hcells
      exact Entries.nodup_setAll List.nodup_nil

namespace Table

variable {changes : Update} {rows : List Row} {row : Row}

theorem rowMatches_iff :
    rowMatches changes.column changes.value row = .ok true ↔ changes.Finds row := by
  unfold rowMatches Update.Finds
  cases row.get? changes.column with
  | none => simp
  | some cell => simp

/-- A row that can be written is found or does not match. -/
theorem rowMatches_of_not_finds (printable : row.IsPrintable)
    (hvalue : changes.value.isPrintable = true) (hmiss : ¬changes.Finds row) :
    rowMatches changes.column changes.value row = .ok false := by
  have hcompared : ∃ isFound, rowMatches changes.column changes.value row = .ok isFound := by
    unfold rowMatches
    cases hget : row.get? changes.column with
    | none => exact ⟨false, rfl⟩
    | some cell => exact Value.exists_looseEquals (printable _ (Entries.mem_of_get? hget)) hvalue
  obtain ⟨isFound, hfound⟩ := hcompared
  cases isFound with
  | true => exact absurd (rowMatches_iff.mp hfound) hmiss
  | false => exact hfound

/-- Among rows of which an update finds one there is a first that it finds. -/
theorem exists_first (hfound : ∃ row ∈ rows, changes.Finds row) :
    ∃ before row rest, rows = before ++ row :: rest ∧
      (∀ earlier ∈ before, ¬changes.Finds earlier) ∧ changes.Finds row := by
  induction rows with
  | nil => simp at hfound
  | cons first rest ih =>
      by_cases hfirst : changes.Finds first
      · exact ⟨[], first, rest, rfl, by simp, hfirst⟩
      · have hlater : ∃ row ∈ rest, changes.Finds row := by simpa [hfirst] using hfound
        obtain ⟨before, row, after, rfl, hbefore, hrow⟩ := ih hlater
        exact ⟨first :: before, row, after, rfl, List.forall_mem_cons.mpr ⟨hfirst, hbefore⟩, hrow⟩

end Table

/-- The row that an update has found is found again if its column was not set. -/
theorem Update.finds_setAll_iff {changes : Update} {row : Row}
    (hcolumn : changes.column ∉ changes.assignments.keys) :
    changes.Finds (row.setAll changes.assignments) ↔ changes.Finds row := by
  rw [Finds, Finds, Entries.get?_setAll_of_not_mem row hcolumn]

namespace Server

variable {server : Server} {current : Current} {query : String} {changes : Update}
  {key stored : String} {table : Table}

/-- An update changes a row that it finds behind others that it does not. -/
theorem execute_update {before rest : List Row} {row : Row}
    (reads : Statement.read query = .ok (.update changes))
    (targets : (Statement.update changes).Targets server current key stored table)
    (hrows : table.rows = before ++ row :: rest)
    (printable : ∀ earlier ∈ before, earlier.IsPrintable)
    (hbefore : ∀ earlier ∈ before, ¬changes.Finds earlier) (hrow : changes.Finds row) :
    server.execute current query = (.ok (.done "1 row updated." (some 1)),
      server.setTable key stored
        { table with rows := before ++ row.setAll changes.assignments :: rest }) := by
  have hvalue := Statement.Readable.update_value_isPrintable ⟨query, reads⟩
  have hmiss : ∀ earlier ∈ before,
      Table.rowMatches changes.column changes.value earlier = .ok false :=
    fun earlier hearlier => Table.rowMatches_of_not_finds (printable earlier hearlier) hvalue
      (hbefore earlier hearlier)
  exact execute_of_perform reads targets
    (Table.update_of_first hrows hmiss (Table.rowMatches_iff.mpr hrow))

/-- An update that finds no row fails and changes nothing. -/
theorem execute_update_of_none (reads : Statement.read query = .ok (.update changes))
    (targets : (Statement.update changes).Targets server current key stored table)
    (printable : ∀ row ∈ table.rows, row.IsPrintable)
    (hnone : ∀ row ∈ table.rows, ¬changes.Finds row) :
    server.execute current query = (.error .noMatchingRow, server) := by
  have hvalue := Statement.Readable.update_value_isPrintable ⟨query, reads⟩
  have hperform : table.perform (.update changes) = table.update changes := rfl
  have hmiss : ∀ row ∈ table.rows,
      Table.rowMatches changes.column changes.value row = .ok false :=
    fun row hrow => Table.rowMatches_of_not_finds (printable row hrow) hvalue (hnone row hrow)
  rw [execute_of_targets reads targets, hperform, Table.update_of_none hmiss]
  rfl

/-- In a table whose integers can be written an update changes the first row that it finds: there the
assigned columns have the assigned values, the columns that the row had stay in their places, and the
others come behind them. The other rows and the rest of the table stay as they are. If the update finds
no row, it fails and changes nothing. If it does not set the column that it looks in, then the same
update again succeeds and changes nothing more. -/
theorem update_changes_first_match (reads : Statement.read query = .ok (.update changes))
    (targets : (Statement.update changes).Targets server current key stored table)
    (printable : ∀ row ∈ table.rows, row.IsPrintable) :
    ((∃ row ∈ table.rows, changes.Finds row) →
      ∃ before row rest changed, table.rows = before ++ row :: rest ∧
        (∀ earlier ∈ before, ¬changes.Finds earlier) ∧ changes.Finds row ∧
        let after := server.setTable key stored { table with rows := before ++ changed :: rest }
        server.execute current query = (.ok (.done "1 row updated." (some 1)), after) ∧
          (∀ name, changed.get? name = (changes.assignments.get? name).or (row.get? name)) ∧
          changed.keys = row.keys ++ changes.assignments.keys.filter (· ∉ row.keys) ∧
          (changes.column ∉ changes.assignments.keys →
            after.execute current query = (.ok (.done "1 row updated." (some 1)), after))) ∧
      ((¬∃ row ∈ table.rows, changes.Finds row) →
        server.execute current query = (.error .noMatchingRow, server)) := by
  have unique := Statement.Readable.nodup_assignments ⟨query, reads⟩
  constructor
  · intro hfound
    obtain ⟨before, row, rest, hrows, hbefore, hrow⟩ := Table.exists_first hfound
    have hprintable : ∀ earlier ∈ before, earlier.IsPrintable := fun earlier hearlier =>
      printable earlier (hrows ▸ List.mem_append_left _ hearlier)
    refine ⟨before, row, rest, row.setAll changes.assignments, hrows, hbefore, hrow, ?_⟩
    refine ⟨execute_update reads targets hrows hprintable hbefore hrow,
      Entries.get?_setAll row unique, Entries.keys_setAll row unique, fun hcolumn => ?_⟩
    have hagain := (Update.finds_setAll_iff hcolumn).mpr hrow
    rw [execute_update reads (targets.setTable_self _) rfl hprintable hbefore hagain,
      setTable_setTable, Entries.setAll_setAll row unique]
  · intro hnone
    exact execute_update_of_none reads targets printable fun row hrow hfinds =>
      hnone ⟨row, hrow, hfinds⟩

/-- A row without the column that is looked in, rows with nothing and with a text there, and two rows
that match, of which the first has one of the assigned columns. -/
theorem update_changes_first_match_of_mixed_column :
    let rows : List Row := [[("b", .int 7)], [("id", .null), ("b", .int 7)], [("id", .text "x")],
      [("id", .text " 7.0"), ("b", .null), ("a", .int 1)], [("id", .int 7)]]
    let table := Seed.table "t" [Seed.keyColumn "id" "int", Seed.plainColumn "b" "int"] rows
    let server : Server := [("db", [("t", table)])]
    let query := "UPDATE T SET n = NULL, b = 'y' WHERE id = '7'"
    let changes : Update := ⟨"T", [("n", .null), ("b", .text "y")], "id", .int 7⟩
    Statement.read query = .ok (.update changes) ∧
      (Statement.update changes).Targets server (.named "db") "db" "t" table ∧
      (∀ row ∈ table.rows, row.IsPrintable) ∧ (∃ row ∈ table.rows, changes.Finds row) ∧
      changes.column ∉ changes.assignments.keys ∧
      ∃ before row rest changed, rows = before ++ row :: rest ∧
        let after := server.setTable "db" "t" { table with rows := before ++ changed :: rest }
        server.execute (.named "db") query = (.ok (.done "1 row updated." (some 1)), after) ∧
          changed.keys = row.keys ++ ["n", "b"].filter (· ∉ row.keys) ∧
          after.execute (.named "db") query = (.ok (.done "1 row updated." (some 1)), after) := by
  intro rows table server query changes
  have reads : Statement.read query = .ok (.update changes) := by decide +kernel
  have hsame : sameName "t" "T" = true := by decide +kernel
  have targets : (Statement.update changes).Targets server (.named "db") "db" "t" table :=
    ⟨rfl, "db", "T", [("t", table)], rfl, rfl, rfl, Entries.find?_singleton hsame table⟩
  have printable : ∀ row ∈ table.rows, row.IsPrintable := by decide +kernel
  have hfound : ∃ row ∈ table.rows, changes.Finds row :=
    ⟨[("id", .int 7)], by decide, .int 7, rfl, by decide +kernel⟩
  have hcolumn : changes.column ∉ changes.assignments.keys := by decide
  obtain ⟨before, row, rest, changed, hrows, -, -, hexecute, -, hkeys, hagain⟩ :=
    (update_changes_first_match reads targets printable).1 hfound
  exact ⟨reads, targets, printable, hfound, hcolumn, before, row, rest, changed, hrows, hexecute,
    hkeys, hagain hcolumn⟩

end Server

end MockSql
