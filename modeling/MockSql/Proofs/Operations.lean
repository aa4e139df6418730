/-
# What the operations on a table do when they succeed

For each operation the values it computes on the way and the table it leaves. Proofs about
statements use these facts and do not look into the operations again.
-/

import MockSql.Proofs.Outcome
import MockSql.Table

namespace MockSql.Table

variable {table after : Table} {answer : Answer}

/-- Dropping a column takes it out of the schema and its cell out of every row. -/
theorem dropColumn_eq_ok {column : String} (h : table.dropColumn column = .ok (answer, after)) :
    ∃ key, table.columnKey column = .ok key ∧
      answer = .done s!"Column '{key}' dropped." none ∧
      after = { table with
        schema := table.schema.filter (!·.hasText "name" key)
        rows := table.rows.map (·.erase key) } := by
  obtain ⟨key, hkey, h⟩ := bind_eq_ok_iff.mp h
  obtain ⟨names, hnames, h⟩ := bind_eq_ok_iff.mp h
  cases h
  exact ⟨key, hkey, rfl, rfl⟩

/-- Adding a column needs a name that no column has, and sets its cell in every row. -/
theorem addColumn_eq_ok {column type : String}
    (h : table.addColumn column type = .ok (answer, after)) :
    firstName? (sameName · column) table.schema = .ok none ∧
      answer = .done s!"Column '{column}' added." none ∧
      after = { table with
        schema := table.schema ++ [({ name := column, type } : ColumnDefinition).toColumn]
        rows := table.rows.map (·.set column .null) } := by
  obtain ⟨found, hfound, h⟩ := bind_eq_ok_iff.mp h
  cases found with
  | some name => cases h
  | none =>
      cases h
      exact ⟨hfound, rfl, rfl⟩

/-- An insertion sets a cell under each of its columns, in their order. -/
theorem keys_pairCells (columns : List String) (values : List Value) :
    (pairCells columns values).keys = columns := by
  induction columns generalizing values with
  | nil => rfl
  | cons column rest ih => cases values <;> exact congrArg (List.cons column) (ih _)

/-- An insertion appends one row: the number of the row, if the table numbers it, and then the
listed cells. -/
theorem insert_eq_ok {insertion : Insertion} (h : table.insert insertion = .ok (answer, after)) :
    ∃ columns numbered, ∃ start : Row, table.targetColumns insertion = .ok columns ∧
      table.numberedKey? columns = .ok numbered ∧
      (match numbered with
        | some key => ∃ id, nextId table.rows key = .ok id ∧ start = [(key, .int id)]
        | none => start = []) ∧
      answer = .done "1 row inserted." (some 1) ∧
      after = table.withRows
        (table.rows ++ [start.setAll (pairCells columns insertion.values)]) := by
  obtain ⟨columns, hcolumns, h⟩ := bind_eq_ok_iff.mp h
  obtain ⟨numbered, hnumbered, h⟩ := bind_eq_ok_iff.mp h
  cases numbered with
  | none =>
      cases h
      exact ⟨columns, none, [], hcolumns, hnumbered, rfl, rfl, rfl⟩
  | some key =>
      obtain ⟨id, hid, h⟩ := bind_eq_ok_iff.mp h
      cases h
      exact ⟨columns, some key, [(key, .int id)], hcolumns, hnumbered, ⟨id, hid, rfl⟩, rfl, rfl⟩

/-- A change of the first matching row leaves the rows before and after it. -/
theorem updateFirst?_eq_some {isMatch : Row → Except Fault Bool} {change : Row → Row}
    {rows changed : List Row} (h : updateFirst? isMatch change rows = .ok (some changed)) :
    ∃ before row rest, rows = before ++ row :: rest ∧
      (∀ earlier ∈ before, isMatch earlier = .ok false) ∧ isMatch row = .ok true ∧
      changed = before ++ change row :: rest := by
  induction rows generalizing changed with
  | nil => cases h
  | cons first rest ih =>
      obtain ⟨matches?, hmatch, h⟩ := bind_eq_ok_iff.mp h
      cases matches? with
      | true =>
          cases h
          exact ⟨[], first, rest, rfl, by simp, hmatch, rfl⟩
      | false =>
          obtain ⟨later, hlater, h⟩ := bind_eq_ok_iff.mp h
          cases later with
          | none => cases h
          | some later =>
              cases h
              obtain ⟨before, row, tail, rfl, hbefore, hrow, rfl⟩ := ih hlater
              refine ⟨first :: before, row, tail, rfl, ?_, hrow, rfl⟩
              intro earlier hearlier
              rcases List.mem_cons.mp hearlier with rfl | hearlier
              · exact hmatch
              · exact hbefore earlier hearlier

/-- An update changes the first row that matches, and no other. -/
theorem update_eq_ok {update : Update} (h : table.update update = .ok (answer, after)) :
    ∃ before row rest, table.rows = before ++ row :: rest ∧
      (∀ earlier ∈ before, rowMatches update.column update.value earlier = .ok false) ∧
      rowMatches update.column update.value row = .ok true ∧
      answer = .done "1 row updated." (some 1) ∧
      after = { table with rows := before ++ row.setAll update.assignments :: rest } := by
  obtain ⟨found, hfound, h⟩ := bind_eq_ok_iff.mp h
  cases found with
  | none => cases h
  | some rows =>
      cases h
      obtain ⟨before, row, rest, hrows, hbefore, hrow, rfl⟩ := updateFirst?_eq_some hfound
      exact ⟨before, row, rest, hrows, hbefore, hrow, rfl, rfl⟩

/-- A row that matches is changed if those before it do not match. -/
theorem updateFirst?_append {isMatch : Row → Except Fault Bool} {change : Row → Row}
    {before rest : List Row} {row : Row} (hbefore : ∀ earlier ∈ before, isMatch earlier = .ok false)
    (hrow : isMatch row = .ok true) :
    updateFirst? isMatch change (before ++ row :: rest) =
      .ok (some (before ++ change row :: rest)) := by
  induction before with
  | nil => simp [updateFirst?, hrow, bind_ok]
  | cons first before ih =>
      obtain ⟨hfirst, hlater⟩ := List.forall_mem_cons.mp hbefore
      simp [updateFirst?, hfirst, bind_ok, ih hlater]

theorem updateFirst?_eq_none {isMatch : Row → Except Fault Bool} {change : Row → Row}
    {rows : List Row} (hrows : ∀ row ∈ rows, isMatch row = .ok false) :
    updateFirst? isMatch change rows = .ok none := by
  induction rows with
  | nil => rfl
  | cons first rest ih =>
      obtain ⟨hfirst, hlater⟩ := List.forall_mem_cons.mp hrows
      simp [updateFirst?, hfirst, bind_ok, ih hlater]

/-- An update changes a row that matches if those before it do not match. -/
theorem update_of_first {update : Update} {before rest : List Row} {row : Row}
    (hrows : table.rows = before ++ row :: rest)
    (hbefore : ∀ earlier ∈ before, rowMatches update.column update.value earlier = .ok false)
    (hrow : rowMatches update.column update.value row = .ok true) :
    table.update update = .ok (.done "1 row updated." (some 1),
      { table with rows := before ++ row.setAll update.assignments :: rest }) := by
  rw [Table.update, hrows, updateFirst?_append hbefore hrow, bind_ok]

/-- An update fails if no row matches. -/
theorem update_of_none {update : Update}
    (hrows : ∀ row ∈ table.rows, rowMatches update.column update.value row = .ok false) :
    table.update update = .error .noMatchingRow := by
  rw [Table.update, updateFirst?_eq_none hrows, bind_ok]

/-- The rows that a deletion keeps stand among the rows in their order. -/
theorem rowsWithout_sublist {column : String} {ids : List Int} {rows kept : List Row}
    (h : rowsWithout column ids rows = .ok kept) : kept.Sublist rows := by
  induction rows generalizing kept with
  | nil =>
      cases h
      exact .slnil
  | cons row rest ih =>
      obtain ⟨leaves, hleaves, h⟩ := bind_eq_ok_iff.mp h
      obtain ⟨later, hlater, h⟩ := bind_eq_ok_iff.mp h
      cases h
      cases leaves with
      | true => exact (ih hlater).cons row
      | false => exact (ih hlater).cons_cons row

/-- A deletion keeps the rows that equal none of the ids and counts the others. -/
theorem delete_eq_ok {deletion : Deletion} (h : table.delete deletion = .ok (answer, after)) :
    ∃ key kept, table.columnKey deletion.column = .ok key ∧
      rowsWithout key deletion.ids table.rows = .ok kept ∧
      answer = .done s!"{table.rows.length - kept.length} row(s) deleted."
        (some (table.rows.length - kept.length)) ∧
      after = table.withRows kept := by
  obtain ⟨key, hkey, h⟩ := bind_eq_ok_iff.mp h
  obtain ⟨kept, hkept, h⟩ := bind_eq_ok_iff.mp h
  cases h
  exact ⟨key, kept, hkey, hkept, rfl, rfl⟩

end MockSql.Table
