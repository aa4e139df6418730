/-
# Deletions

A deletion takes out the rows whose cell loosely equals one of its ids, keeps the others in their order
and counts what it takes out. It never fails on a table whose columns have names. Nothing equals no id,
so a row without a value in the column stays. What a deletion leaves, the same deletion leaves again;
and a list of ids deletes what its two parts delete one after the other.
-/

import MockSql.Proofs.FreshIds
import MockSql.Proofs.LooseEquality
import MockSql.Proofs.PrintableLiterals

namespace MockSql

/-- Any value can be compared with an integer that can be written. -/
theorem Value.exists_looseEquals_int (value : Value) {id : Int}
    (printable : Number.isPrintable id = true) : ∃ same, value.looseEquals (.int id) = .ok same := by
  cases hnumber : value.number? with
  | some n => exact ⟨_, looseEquals_numbers hnumber rfl⟩
  | none =>
      have hvalue := exists_toText_iff.mp (exists_toText_of_number?_eq_none hnumber)
      exact exists_looseEquals hvalue printable

/-- Whether the cell of a row equals one of some ids. -/
def Row.Leaves (column : String) (ids : List Int) (row : Row) : Prop :=
  ∃ id ∈ ids, (row.cell column).looseEquals (.int id) = .ok true

instance (column : String) (ids : List Int) (row : Row) : Decidable (row.Leaves column ids) :=
  inferInstanceAs (Decidable (∃ id ∈ ids, (row.cell column).looseEquals (.int id) = .ok true))

namespace Row

variable {row : Row} {column : String} {ids first second : List Int}

/-- A row without a value in the column stays. -/
theorem not_leaves_of_null (hcell : row.cell column = .null) : ¬row.Leaves column ids := by
  rintro ⟨id, -, hsame⟩
  rw [hcell] at hsame
  cases hsame

theorem leaves_append_iff :
    row.Leaves column (first ++ second) ↔ row.Leaves column first ∨ row.Leaves column second := by
  simp only [Leaves, List.mem_append, or_and_right, exists_or]

end Row

/-- The answer of a deletion. -/
def Answer.deleted (count : Nat) : Answer :=
  .done s!"{count} row(s) deleted." (some count)

namespace Table

variable {table : Table} {deletion : Deletion} {column : String} {ids first second : List Int}

theorem equalsAny_eq (value : Value) (printable : ∀ id ∈ ids, Number.isPrintable id = true) :
    equalsAny value ids = .ok (∃ id ∈ ids, value.looseEquals (.int id) = .ok true) := by
  induction ids with
  | nil => simp [equalsAny]
  | cons id rest ih =>
      obtain ⟨hid, hrest⟩ := List.forall_mem_cons.mp printable
      obtain ⟨same, hsame⟩ := value.exists_looseEquals_int hid
      rw [equalsAny, hsame, bind_ok]
      cases same with
      | true => simp [hsame]
      | false => simp [hsame, ih hrest]

/-- A deletion keeps the rows that do not leave. -/
theorem rowsWithout_eq (printable : ∀ id ∈ ids, Number.isPrintable id = true) (rows : List Row) :
    rowsWithout column ids rows = .ok (rows.filter (¬·.Leaves column ids)) := by
  induction rows with
  | nil => rfl
  | cons row rest ih =>
      have hleaves : equalsAny (row.cell column) ids = .ok (row.Leaves column ids) :=
        equalsAny_eq _ printable
      rw [rowsWithout, hleaves, bind_ok, ih, bind_ok]
      by_cases leaves : row.Leaves column ids <;> simp [leaves]

/-- Each row leaves or stays. -/
theorem length_eq_leaves_add (column : String) (ids : List Int) (rows : List Row) :
    rows.length =
      rows.countP (·.Leaves column ids) + (rows.filter (¬·.Leaves column ids)).length := by
  rw [List.length_eq_countP_add_countP (·.Leaves column ids), ← List.countP_eq_length_filter]
  simp only [decide_eq_true_eq]

/-- What stays when the rows of some ids leave and then those of others stays when all of them leave
at once. -/
theorem filter_leaves_append (rows : List Row) :
    (rows.filter (¬·.Leaves column first)).filter (¬·.Leaves column second) =
      rows.filter (¬·.Leaves column (first ++ second)) := by
  rw [List.filter_filter]
  refine List.filter_congr fun row _ => ?_
  simp [Row.leaves_append_iff, Bool.and_comm]

theorem countP_leaves_append (rows : List Row) :
    rows.countP (·.Leaves column first) +
        (rows.filter (¬·.Leaves column first)).countP (·.Leaves column second) =
      rows.countP (·.Leaves column (first ++ second)) := by
  have hall := length_eq_leaves_add column (first ++ second) rows
  have hfirst := length_eq_leaves_add column first rows
  have hsecond := length_eq_leaves_add column second (rows.filter (¬·.Leaves column first))
  rw [filter_leaves_append] at hsecond
  omega

/-- No row leaves that has stayed. -/
theorem countP_leaves_filter (rows : List Row) :
    (rows.filter (¬·.Leaves column ids)).countP (·.Leaves column ids) = 0 := by
  rw [List.countP_eq_zero]
  intro row hrow
  simpa using (List.mem_filter.mp hrow).2

/-- A deletion counts the rows that leave and keeps the others. -/
theorem delete_eq (hkey : table.columnKey deletion.column = .ok column)
    (printable : ∀ id ∈ deletion.ids, Number.isPrintable id = true) :
    table.delete deletion =
      .ok (.deleted (table.rows.countP (·.Leaves column deletion.ids)),
        table.withRows (table.rows.filter (¬·.Leaves column deletion.ids))) := by
  have hcount : table.rows.length - (table.rows.filter (¬·.Leaves column deletion.ids)).length =
      table.rows.countP (·.Leaves column deletion.ids) := by
    have hlength := length_eq_leaves_add column deletion.ids table.rows
    omega
  simp only [delete, hkey, bind_ok, rowsWithout_eq printable, hcount, Answer.deleted]

end Table

namespace Server

variable {server : Server} {current : Current} {query : String} {deletion : Deletion}
  {key stored column : String} {columns : List String} {table : Table}

/-- A deletion succeeds in the table that it is about. -/
theorem execute_deletion (reads : Statement.read query = .ok (.delete deletion))
    (targets : (Statement.delete deletion).Targets server current key stored table)
    (hkey : table.columnKey deletion.column = .ok column) :
    server.execute current query =
      (.ok (.deleted (table.rows.countP (·.Leaves column deletion.ids))), server.setTable key stored
        (table.withRows (table.rows.filter (¬·.Leaves column deletion.ids)))) := by
  have printable := Statement.Readable.delete_isPrintable ⟨query, reads⟩
  exact execute_of_perform reads targets (Table.delete_eq hkey printable)

/-- A deletion takes nothing out of what it has left. -/
theorem execute_deletion_again (reads : Statement.read query = .ok (.delete deletion))
    (targets : (Statement.delete deletion).Targets server current key stored table)
    (hkey : table.columnKey deletion.column = .ok column) :
    let left := table.withRows (table.rows.filter (¬·.Leaves column deletion.ids))
    (server.setTable key stored left).execute current query =
      (.ok (.deleted 0), server.setTable key stored left) := by
  intro left
  have hleft : left.columnKey deletion.column = .ok column := hkey
  have hstay : left.rows.filter (¬·.Leaves column deletion.ids) = left.rows := by
    simp only [left, Table.withRows, List.filter_filter, Bool.and_self]
  have hcount : left.rows.countP (·.Leaves column deletion.ids) = 0 :=
    Table.countP_leaves_filter table.rows
  rw [execute_deletion reads (targets.setTable_self left) hleft, setTable_setTable, hstay, hcount]
  rfl

/-- Two deletions, one after the other, take out what one deletion with the ids of both does. -/
theorem execute_deletions {firstQuery secondQuery : String} {name given : String}
    {first second : List Int}
    (readsFirst : Statement.read firstQuery = .ok (.delete ⟨name, given, first⟩))
    (readsSecond : Statement.read secondQuery = .ok (.delete ⟨name, given, second⟩))
    (targets : (Statement.delete ⟨name, given, first ++ second⟩).Targets server current key stored
      table)
    (hkey : table.columnKey given = .ok column) :
    ∃ middle firstCount secondCount,
      server.execute current firstQuery = (.ok (.deleted firstCount), middle) ∧
        middle.execute current secondQuery = (.ok (.deleted secondCount), server.setTable key stored
          (table.withRows (table.rows.filter (¬·.Leaves column (first ++ second))))) ∧
        firstCount + secondCount = table.rows.countP (·.Leaves column (first ++ second)) := by
  let left := table.withRows (table.rows.filter (¬·.Leaves column first))
  have targetsFirst : (Statement.delete ⟨name, given, first⟩).Targets server current key stored
      table := ⟨rfl, targets.found⟩
  have targetsSecond : (Statement.delete ⟨name, given, second⟩).Targets
      (server.setTable key stored left) current key stored left :=
    ⟨rfl, (targets.setTable_self left).found⟩
  refine ⟨_, _, left.rows.countP (·.Leaves column second),
    execute_deletion readsFirst targetsFirst hkey, ?_, Table.countP_leaves_append table.rows⟩
  rw [execute_deletion readsSecond targetsSecond hkey, setTable_setTable]
  simp only [left, Table.withRows, Table.filter_leaves_append]

/-- A deletion from a table whose columns have names takes out just the rows whose cell in its column
equals one of the ids. The column is the one of that name, or of that name in another spelling. A row
without a value there stays, the rows that stay keep their order, and the answer counts the others. The
same deletion again takes nothing out. And if its ids are those of two deletions, one after the other
they leave the same server, and their counts add up. -/
theorem deletion_takes_out_matches (reads : Statement.read query = .ok (.delete deletion))
    (targets : (Statement.delete deletion).Targets server current key stored table)
    (hcolumns : table.columnNames = .ok columns) :
    ∃ column, table.columnKey deletion.column = .ok column ∧
      (deletion.column ∈ columns → column = deletion.column) ∧
      let count := table.rows.countP (·.Leaves column deletion.ids)
      let kept := table.rows.filter (¬·.Leaves column deletion.ids)
      let after := server.setTable key stored (table.withRows kept)
      (∀ row ∈ table.rows, row.get? column = none ∨ row.get? column = some .null → row ∈ kept) ∧
        after.tableAt? key stored = some (table.withRows kept) ∧
        server.execute current query = (.ok (.deleted count), after) ∧
        after.execute current query = (.ok (.deleted 0), after) ∧
        ∀ first second firstQuery secondQuery, deletion.ids = first ++ second →
          Statement.read firstQuery = .ok (.delete { deletion with ids := first }) →
          Statement.read secondQuery = .ok (.delete { deletion with ids := second }) →
          ∃ middle firstCount secondCount,
            server.execute current firstQuery = (.ok (.deleted firstCount), middle) ∧
              middle.execute current secondQuery = (.ok (.deleted secondCount), after) ∧
              firstCount + secondCount = count := by
  obtain ⟨name, given, ids⟩ := deletion
  obtain ⟨column, hkey, hexact⟩ := Table.exists_columnKey hcolumns given
  refine ⟨column, hkey, hexact, ?_⟩
  intro count kept after
  refine ⟨?_, (targets.setTable_self (table.withRows kept)).tableAt?,
    execute_deletion reads targets hkey, execute_deletion_again reads targets hkey, ?_⟩
  · intro row hrow hcell
    have hnull : row.cell column = .null := by
      rcases hcell with hcell | hcell <;> rw [Row.cell, hcell] <;> rfl
    exact List.mem_filter.mpr ⟨hrow, decide_eq_true (Row.not_leaves_of_null hnull)⟩
  · intro first second firstQuery secondQuery hids readsFirst readsSecond
    cases hids
    exact execute_deletions readsFirst readsSecond targets hkey

/-- A column with nothing, an id as an integer, as a double and as a text, a text and a truth value that
are no ids, and a row without a value; one id is listed twice. -/
theorem deletion_takes_out_matches_of_mixed_column :
    let rows : List Row := [[("id", .null)], [("id", .int 1)], [("a", .int 1)],
      [("id", .double (Double.ofDecimal false 1 0))], [("id", .text "x")], [("id", .text " 2.0")],
      [("id", .bool true)]]
    let table := Seed.table "t" [Seed.keyColumn "id" "int", Seed.plainColumn "a" "int"] rows
    let server : Server := [("db", [("t", table)])]
    let left := table.withRows
      [[("id", .null)], [("a", .int 1)], [("id", .text "x")], [("id", .bool true)]]
    let after : Server := [("db", [("t", left)])]
    let query := "DELETE FROM T WHERE ID IN (1, '2', 1)"
    let firstQuery := "DELETE FROM T WHERE ID IN (1)"
    let secondQuery := "DELETE FROM T WHERE ID IN ('2', 1)"
    Statement.read query = .ok (.delete ⟨"T", "ID", [1, 2, 1]⟩) ∧
      Statement.read firstQuery = .ok (.delete ⟨"T", "ID", [1]⟩) ∧
      Statement.read secondQuery = .ok (.delete ⟨"T", "ID", [2, 1]⟩) ∧
      (Statement.delete ⟨"T", "ID", [1, 2, 1]⟩).Targets server (.named "db") "db" "t" table ∧
      table.columnNames = .ok ["id", "a"] ∧
      server.execute (.named "db") query = (.ok (.deleted 3), after) ∧
      after.execute (.named "db") query = (.ok (.deleted 0), after) ∧
      ∃ middle firstCount secondCount,
        server.execute (.named "db") firstQuery = (.ok (.deleted firstCount), middle) ∧
          middle.execute (.named "db") secondQuery = (.ok (.deleted secondCount), after) ∧
          firstCount + secondCount = 3 := by
  intro rows table server left after query firstQuery secondQuery
  have reads : Statement.read query = .ok (.delete ⟨"T", "ID", [1, 2, 1]⟩) := by decide +kernel
  have readsFirst : Statement.read firstQuery = .ok (.delete ⟨"T", "ID", [1]⟩) := by decide +kernel
  have readsSecond : Statement.read secondQuery = .ok (.delete ⟨"T", "ID", [2, 1]⟩) := by
    decide +kernel
  have hsame : sameName "t" "T" = true := by decide +kernel
  have targets : (Statement.delete ⟨"T", "ID", [1, 2, 1]⟩).Targets server (.named "db") "db" "t"
      table :=
    ⟨rfl, "db", "T", [("t", table)], rfl, rfl, rfl, Entries.find?_singleton hsame table⟩
  have hcolumns : table.columnNames = .ok ["id", "a"] := rfl
  have hcolumn : table.columnKey "ID" = .ok "id" := by decide +kernel
  have hcount : table.rows.countP (·.Leaves "id" [1, 2, 1]) = 3 := by decide +kernel
  have hkept : table.rows.filter (¬·.Leaves "id" [1, 2, 1]) = left.rows := by decide +kernel
  obtain ⟨column, hkey, -, -, -, hexecute, hagain, hparts⟩ :=
    deletion_takes_out_matches reads targets hcolumns
  cases hcolumn.symm.trans hkey
  rw [hcount, hkept] at hexecute
  rw [hkept] at hagain
  obtain ⟨middle, firstCount, secondCount, hfirst, hsecond, hsum⟩ :=
    hparts [1] [2, 1] _ _ rfl readsFirst readsSecond
  rw [hkept] at hsecond
  exact ⟨reads, readsFirst, readsSecond, targets, hcolumns, hexecute, hagain, middle, firstCount,
    secondCount, hfirst, hsecond, hsum.trans hcount⟩

end Server

end MockSql
