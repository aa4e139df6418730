/-
# The ledger of a table

Rows have no identity of their own: two of them can be equal, and one that is changed is no longer
equal to what it was. A ledger of a table follows them through the statements about it. It holds the
rows with where each of them comes from, and it counts the insertions and the rows that deletions
report. Without where they come from, the rows of a ledger are those of the table.
-/

import MockSql.Proofs.Effects

namespace MockSql

/-- Whether a test can be made and is met. -/
def isMet : Except Fault Bool → Bool
  | .ok met => met
  | .error _ => false

namespace Table

/-- What a change of the columns makes of a row. -/
def reshape (table : Table) : ColumnChange → Row → Row
  | .drop column, row =>
    match table.columnKey column with
    | .ok key => row.erase key
    | .error _ => row
  | .add column _, row => row.set column .null

/-- Whether a deletion takes a row away. -/
def loses (table : Table) (deletion : Deletion) (row : Row) : Bool :=
  isMet do equalsAny (row.cell (← table.columnKey deletion.column)) deletion.ids

/-- A deletion keeps the rows that it does not take away. -/
theorem rowsWithout_eq_ok {column : String} {ids : List Int} {rows kept : List Row}
    (h : rowsWithout column ids rows = .ok kept) :
    kept = rows.filter fun row => !isMet (equalsAny (row.cell column) ids) := by
  induction rows generalizing kept with
  | nil =>
      cases h
      rfl
  | cons row rest ih =>
      obtain ⟨leaves, hleaves, h⟩ := bind_eq_ok_iff.mp h
      obtain ⟨later, hlater, h⟩ := bind_eq_ok_iff.mp h
      cases h
      cases leaves <;> simp [hleaves, isMet, ih hlater]

end Table

/-- Where a row comes from: it stood in some place at the start, or some insertion since made it. -/
inductive Origin where
  | start (index : Nat)
  | inserted (number : Nat)
deriving DecidableEq, Repr

/-- The rows of a table with where they come from, how many insertions made a row since the start,
and how many rows deletions reported. -/
structure Ledger where
  rows : List (Origin × Row)
  insertions : Nat
  deletions : Nat
deriving Repr

/-- How many rows an answer reports. -/
def Answer.affected : Answer → Nat
  | done _ (some count) => count
  | _ => 0

namespace Ledger

/-- The ledger of a table at the start. -/
def opening (table : Table) : Ledger where
  rows := table.rows.mapIdx fun index row => (.start index, row)
  insertions := 0
  deletions := 0

/-- Changes the first row that meets a condition. -/
def changeFirst (condition : Row → Bool) (change : Row → Row) :
    List (Origin × Row) → List (Origin × Row)
  | [] => []
  | (origin, row) :: rest =>
    if condition row then (origin, change row) :: rest
    else (origin, row) :: changeFirst condition change rest

/-- Enters into the ledger of a table what a statement about it answered and what it left. -/
def enter (ledger : Ledger) (table after : Table) (answer : Answer) : Statement → Ledger
  | .insert _ =>
    let made := after.rows.drop table.rows.length
    { ledger with
      rows := ledger.rows ++ made.map (.inserted ledger.insertions, ·)
      insertions := ledger.insertions + 1 }
  | .update changes =>
    let isMatch (row : Row) := isMet (Table.rowMatches changes.column changes.value row)
    { ledger with rows := changeFirst isMatch (·.setAll changes.assignments) ledger.rows }
  | .delete deletion =>
    { ledger with
      rows := ledger.rows.filter fun traced => !table.loses deletion traced.2
      deletions := ledger.deletions + answer.affected }
  | .alterTable _ change =>
    { ledger with
      rows := ledger.rows.map fun traced => (traced.1, table.reshape change traced.2) }
  | _ => ledger

/-- The origins of rows in the order in which they come to be. -/
def origins (opened insertions : Nat) : List Origin :=
  (List.range opened).map .start ++ (List.range insertions).map .inserted

/-- A ledger is right about a table that had some number of rows at the start. -/
structure Balances (ledger : Ledger) (opened : Nat) (table : Table) : Prop where
  rows : ledger.rows.map Prod.snd = table.rows
  count : table.rows.length + ledger.deletions = opened + ledger.insertions
  order : (ledger.rows.map Prod.fst).Sublist (origins opened ledger.insertions)

theorem origins_succ (opened insertions : Nat) :
    origins opened (insertions + 1) = origins opened insertions ++ [.inserted insertions] := by
  simp [origins, List.range_succ]

theorem opening_balances (table : Table) : (opening table).Balances table.rows.length table where
  rows := by apply List.ext_getElem <;> simp [opening]
  count := rfl
  order := by
    have hstart : (opening table).rows.map Prod.fst =
        (List.range table.rows.length).map .start := by
      apply List.ext_getElem <;> simp [opening]
    rw [hstart]
    exact List.sublist_append_left _ _

/-- Changing the first row that meets a condition leaves all origins. -/
theorem changeFirst_origins (condition : Row → Bool) (change : Row → Row)
    (rows : List (Origin × Row)) :
    (changeFirst condition change rows).map Prod.fst = rows.map Prod.fst := by
  induction rows with
  | nil => rfl
  | cons traced rest ih =>
      rw [changeFirst]
      split
      next => rfl
      next => rw [List.map_cons, List.map_cons, ih]

/-- The row that is changed is the first that meets the condition. -/
theorem changeFirst_rows {condition : Row → Bool} (change : Row → Row) {before rest : List Row}
    {row : Row} {rows : List (Origin × Row)} (hrows : rows.map Prod.snd = before ++ row :: rest)
    (hbefore : ∀ earlier ∈ before, condition earlier = false) (hrow : condition row = true) :
    (changeFirst condition change rows).map Prod.snd = before ++ change row :: rest := by
  induction before generalizing rows with
  | nil =>
      obtain ⟨⟨origin, first⟩, others, rfl, rfl, rfl⟩ := List.map_eq_cons_iff.mp hrows
      rw [changeFirst, if_pos hrow]
      rfl
  | cons earlier before ih =>
      obtain ⟨⟨origin, first⟩, others, rfl, rfl, hothers⟩ := List.map_eq_cons_iff.mp hrows
      have hearlier : ¬condition first = true := by
        rw [hbefore first List.mem_cons_self]
        exact Bool.false_ne_true
      rw [changeFirst, if_neg hearlier, List.map_cons,
        ih hothers fun other hother => hbefore other (List.mem_cons_of_mem _ hother)]
      rfl

namespace Balances

variable {ledger : Ledger} {opened : Nat} {table after : Table} {answer : Answer}

theorem insert {insertion : Insertion} (balances : ledger.Balances opened table)
    (h : table.insert insertion = .ok (answer, after)) :
    (ledger.enter table after answer (.insert insertion)).Balances opened after := by
  obtain ⟨columns, numbered, start, -, -, -, -, rfl⟩ := Table.insert_eq_ok h
  have hcount := balances.count
  refine ⟨?_, ?_, ?_⟩
  · simp [enter, Table.withRows, balances.rows]
  · simp only [enter, Table.withRows, List.length_append, List.length_singleton]
    omega
  · simp only [enter, Table.withRows, List.drop_left, List.map_append, List.map_singleton,
      origins_succ]
    exact balances.order.append (List.Sublist.refl _)

theorem update {changes : Update} (balances : ledger.Balances opened table)
    (h : table.update changes = .ok (answer, after)) :
    (ledger.enter table after answer (.update changes)).Balances opened after := by
  obtain ⟨before, row, rest, hrows, hbefore, hrow, -, rfl⟩ := Table.update_eq_ok h
  have hcount := balances.count
  refine ⟨?_, ?_, ?_⟩
  · apply changeFirst_rows _ (balances.rows.trans hrows)
    · intro earlier hearlier
      rw [hbefore earlier hearlier, isMet]
    · rw [hrow, isMet]
  · rw [hrows, List.length_append, List.length_cons] at hcount
    simpa [enter] using hcount
  · simp only [enter, changeFirst_origins]
    exact balances.order

theorem delete {deletion : Deletion} (balances : ledger.Balances opened table)
    (h : table.delete deletion = .ok (answer, after)) :
    (ledger.enter table after answer (.delete deletion)).Balances opened after := by
  obtain ⟨key, kept, hkey, hkept, rfl, rfl⟩ := Table.delete_eq_ok h
  have hcount := balances.count
  have hfewer : kept.length ≤ table.rows.length := (Table.rowsWithout_sublist hkept).length_le
  have hloses : ∀ row, table.loses deletion row =
      isMet (Table.equalsAny (row.cell key) deletion.ids) := by
    intro row
    rw [Table.loses, hkey, bind_ok]
  refine ⟨?_, ?_, ?_⟩
  · rw [Table.rowsWithout_eq_ok hkept, ← balances.rows, List.filter_map]
    simp only [enter, Table.withRows, hloses]
    rfl
  · simp only [enter, Answer.affected, Table.withRows]
    omega
  · exact (List.filter_sublist.map Prod.fst).trans balances.order

theorem alter {name : String} {change : ColumnChange} (balances : ledger.Balances opened table)
    (h : table.alter change = .ok (answer, after)) :
    (ledger.enter table after answer (.alterTable name change)).Balances opened after := by
  have hrows : after.rows = table.rows.map (table.reshape change) := by
    cases change with
    | drop column =>
        obtain ⟨key, hkey, -, rfl⟩ := Table.dropColumn_eq_ok h
        refine List.map_congr_left fun row _ => ?_
        simp only [Table.reshape, hkey]
    | add column type =>
        obtain ⟨-, -, rfl⟩ := Table.addColumn_eq_ok h
        rfl
  refine ⟨?_, ?_, ?_⟩
  · simp [enter, hrows, ← balances.rows]
  · rw [hrows, List.length_map]
    exact balances.count
  · simpa [enter, Function.comp_def] using balances.order

end Balances

end Ledger

/-- Whether a statement is for emptying a table or for taking it away under its name. -/
def Statement.endsTable : Statement → Bool
  | dropTable _ | truncateTable _ | renameTable _ _ => true
  | _ => false

/-- A ledger stays right when a statement about the content of the table is entered, unless that
empties the table. -/
theorem Ledger.Balances.enter {ledger : Ledger} {opened : Nat} {table after : Table}
    {statement : Statement} {answer : Answer} (balances : ledger.Balances opened table)
    (spared : statement.endsTable = false)
    (performed : table.perform statement = .ok (answer, after)) :
    (ledger.enter table after answer statement).Balances opened after := by
  cases statement with
  | truncateTable => cases spared
  | alterTable name change => exact balances.alter performed
  | select selection =>
      obtain ⟨selected, -, h⟩ := map_eq_ok_iff.mp performed
      cases h
      exact balances
  | insert insertion => exact balances.insert performed
  | update changes => exact balances.update performed
  | delete deletion => exact balances.delete performed
  | showDatabases | createDatabase | dropDatabase | use | showTables => cases performed
  | createTable | dropTable | renameTable => cases performed

end MockSql
