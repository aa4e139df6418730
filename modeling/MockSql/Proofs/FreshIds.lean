/-
# Fresh ids

A table whose primary key numbers its rows gives the row of an insertion that leaves the key open a
number of its own: a positive integer above the value of every number in the column, whatever else
stands there. Only an infinity in the column leaves no such integer, and then the insertion fails.
As long as nothing else touches the table, the numbers of further insertions follow one another.
-/

import MockSql.Proofs.Accounting
import MockSql.Proofs.ExactNumbers
import MockSql.Proofs.NumberLimit
import MockSql.Proofs.Numerals

namespace MockSql

open Number

/-- An id is fresh for a column if it is positive and above the value of every number there. -/
structure IsFresh (rows : List Row) (column : String) (id : Int) : Prop where
  pos : 1 ≤ id
  above : ∀ row ∈ rows, ∀ n value, (row.cell column).number? = some n →
    n.value? = some value → value < .ofRat id

namespace Table

variable {table : Table} {insertion : Insertion} {rows : List Row} {row : Row} {column : String}
  {id : Int}

/-- The number of a new row is fresh. -/
theorem isFresh_nextId (hid : nextId rows column = .ok id) : IsFresh rows column id := by
  refine ⟨nextId_pos hid, fun row hrow n value hread hvalue => ?_⟩
  obtain ⟨whole, hwhole, rfl⟩ := nextId_eq_ok_iff.mp hid
  obtain ⟨best, limit, hbest, hlimit, hless⟩ :=
    less_iff.mp (less_of_truncate?_lt hwhole (Int.lt_succ whole))
  cases hlimit
  have hbound := (isGreatest rows column).bound row hrow n hread
  have hle : ¬best < value := fun hlt => by
    cases hbound.symm.trans (less_iff.mpr ⟨best, value, hbest, hvalue, hlt⟩)
  exact (not_lt.mp hle).trans_lt hless

/-- The number of the row after it is the next one. -/
theorem nextId_append (hid : nextId rows column = .ok id) (hcell : row.cell column = .int id) :
    nextId (rows ++ [row]) column = .ok (id + 1) := by
  obtain ⟨whole, hwhole, rfl⟩ := nextId_eq_ok_iff.mp hid
  have hless := less_of_truncate?_lt hwhole (Int.lt_succ whole)
  have hgreatest : greatest (rows ++ [row]) column = .int (whole + 1) := by
    have hlast : greatest (rows ++ [row]) column = greater (greatest rows column) (row.cell column) :=
      List.foldl_append
    rw [hlast, hcell]
    exact if_pos hless
  rw [nextId_eq_ok_iff, hgreatest]
  exact ⟨_, rfl, rfl⟩

/-- An infinity in the column leaves no number. -/
theorem nextId_eq_error (hinfinite : ∃ row ∈ rows, (row.cell column).number? = some infinity) :
    nextId rows column = .error .infiniteId := by
  obtain ⟨row, hrow, hread⟩ := hinfinite
  have hnone : ¬∃ id, nextId rows column = .ok id :=
    fun hid => exists_nextId_iff.mp hid row hrow hread
  unfold nextId at hnone ⊢
  split
  next greatest hgreatest => exact absurd ⟨_, by rw [hgreatest]⟩ hnone
  next => rfl

/-- A table whose columns have names, of which this is the primary key and numbers the rows. -/
structure NumberedBy (table : Table) (column : String) : Prop where
  named : ∃ names, table.columnNames = .ok names
  primary : ∃ definition, table.schema.find? (·.isPrimary) = some definition ∧
    definition.isNumbered = true ∧ definition.name = .ok column

/-- An insertion has no value for a column. -/
def LeavesOpen (table : Table) (insertion : Insertion) (column : String) : Prop :=
  ∀ columns, table.targetColumns insertion = .ok columns → column ∉ columns

theorem NumberedBy.withRows (numbered : table.NumberedBy column) (rows : List Row) :
    (table.withRows rows).NumberedBy column :=
  ⟨numbered.named, numbered.primary⟩

theorem LeavesOpen.withRows (isOpen : table.LeavesOpen insertion column) (rows : List Row) :
    (table.withRows rows).LeavesOpen insertion column :=
  isOpen

/-- Where all columns have names, so have those that an insertion is for. -/
theorem exists_targetColumns {names : List String} (hnames : table.columnNames = .ok names)
    (insertion : Insertion) : ∃ columns, table.targetColumns insertion = .ok columns := by
  unfold targetColumns
  cases insertion.columns with
  | some columns => exact ⟨columns, rfl⟩
  | none => exact exists_mapM_filter hnames _

/-- An insertion that leaves the key open has its row numbered. -/
theorem NumberedBy.insert_eq (numbered : table.NumberedBy column)
    (isOpen : table.LeavesOpen insertion column) :
    ∃ columns, column ∉ columns ∧ table.insert insertion =
      (nextId table.rows column).bind fun id =>
        .ok (.done "1 row inserted." (some 1), table.withRows (table.rows ++
          [Entries.setAll [(column, .int id)] (pairCells columns insertion.values)])) := by
  obtain ⟨names, hnames⟩ := numbered.named
  obtain ⟨definition, hprimary, hnumbered, hname⟩ := numbered.primary
  obtain ⟨columns, hcolumns⟩ := exists_targetColumns hnames insertion
  have hfree := isOpen columns hcolumns
  have hkey : table.numberedKey? columns = .ok (some column) := by
    simp [numberedKey?, hprimary, hnumbered, hname, bind_ok, hfree]
  refine ⟨columns, hfree, ?_⟩
  simp only [insert, hcolumns, hkey, bind_ok]
  cases nextId table.rows column <;> rfl

/-- The row is appended, with its number. -/
theorem NumberedBy.insert_of_nextId (numbered : table.NumberedBy column)
    (isOpen : table.LeavesOpen insertion column) (hid : nextId table.rows column = .ok id) :
    ∃ row, table.insert insertion =
        .ok (.done "1 row inserted." (some 1), table.withRows (table.rows ++ [row])) ∧
      row.cell column = .int id := by
  obtain ⟨columns, hfree, hinsert⟩ := numbered.insert_eq isOpen
  rw [hid] at hinsert
  refine ⟨_, hinsert, ?_⟩
  have hcells : column ∉ (pairCells columns insertion.values).keys := by
    rwa [keys_pairCells]
  rw [Row.cell, Entries.get?_setAll_of_not_mem _ hcells, Entries.get?_cons_self, Option.getD_some]

end Table

section Places

variable {statement : Statement} {server : Server} {current : Current} {key stored : String}
  {table : Table}

theorem Statement.Targets.tableAt? (targets : statement.Targets server current key stored table) :
    server.tableAt? key stored = some table := by
  obtain ⟨given, name, tables, -, -, chosen, found⟩ := targets.found
  rw [Server.tableAt?_eq (Entries.find?_eq_some chosen).2, (Entries.find?_eq_some found).2]

/-- A statement is about the same place after the table there has been changed. -/
theorem Statement.Targets.setTable_self (targets : statement.Targets server current key stored table)
    (edited : Table) :
    statement.Targets (server.setTable key stored edited) current key stored edited := by
  obtain ⟨given, name, tables, hcurrent, about, chosen, found⟩ := targets.found
  rw [Server.setTable_eq (Entries.find?_eq_some chosen).2]
  exact ⟨targets.isLocal, given, name, tables.set stored edited, hcurrent, about,
    Entries.find?_set _ chosen, Entries.find?_set _ found⟩

end Places

namespace Store

variable {store : Store} {current : Current} {query : String} {insertion : Insertion}
  {key stored column : String} {table : Table} {events : List Event} {count : Nat} {first : Int}

/-- A run in which a number of insertions leave a column open of the table in a place, and in which
nothing else touches that table. -/
inductive InsertsOpen (key stored column : String) : Store → List Event → Nat → Prop
  | done {store : Store} : InsertsOpen key stored column store [] 0
  | insert {store : Store} {current : Current} {query : String} {insertion : Insertion}
      {table : Table} {events : List Event} {count : Nat}
      (reads : Statement.read query = .ok (.insert insertion))
      (targets : (Statement.insert insertion).Targets store.server current key stored table)
      (isOpen : table.LeavesOpen insertion column)
      (rest : InsertsOpen key stored column (store.after (.statement current query)) events count) :
      InsertsOpen key stored column store (.statement current query :: events) (count + 1)
  | other {store : Store} {event : Event} {events : List Event} {count : Nat}
      (untouched : (store.after event).server.tableAt? key stored =
        store.server.tableAt? key stored)
      (rest : InsertsOpen key stored column (store.after event) events count) :
      InsertsOpen key stored column store (event :: events) count

/-- Such an insertion appends a row with the next number, as long as there is one. -/
theorem execute_insertion (reads : Statement.read query = .ok (.insert insertion))
    (targets : (Statement.insert insertion).Targets store.server current key stored table)
    (numbered : table.NumberedBy column) (isOpen : table.LeavesOpen insertion column)
    (hfirst : Table.nextId table.rows column = .ok first) :
    ∃ row, store.server.execute current query = (.ok (.done "1 row inserted." (some 1)),
        store.server.setTable key stored (table.withRows (table.rows ++ [row]))) ∧
      row.cell column = .int first := by
  obtain ⟨row, hinsert, hcell⟩ := numbered.insert_of_nextId isOpen hfirst
  have hperform : table.perform (.insert insertion) =
      .ok (.done "1 row inserted." (some 1), table.withRows (table.rows ++ [row])) := hinsert
  refine ⟨row, ?_, hcell⟩
  rw [Server.execute_of_targets reads targets, hperform]
  rfl

/-- The table in the place has one row more after it, with the next number. -/
theorem after_insertion (reads : Statement.read query = .ok (.insert insertion))
    (targets : (Statement.insert insertion).Targets store.server current key stored table)
    (numbered : table.NumberedBy column) (isOpen : table.LeavesOpen insertion column)
    (hfirst : Table.nextId table.rows column = .ok first) :
    ∃ row, row.cell column = .int first ∧
      (Statement.insert insertion).Targets (store.after (.statement current query)).server current
        key stored (table.withRows (table.rows ++ [row])) := by
  obtain ⟨row, hexecute, hcell⟩ := execute_insertion reads targets numbered isOpen hfirst
  have hafter : (store.after (.statement current query)).server =
      store.server.setTable key stored (table.withRows (table.rows ++ [row])) :=
    congrArg Prod.snd hexecute
  exact ⟨row, hcell, hafter ▸ targets.setTable_self _⟩

/-- The rows of such a run get numbers that follow one another. -/
theorem InsertsOpen.consecutive (run : InsertsOpen key stored column store events count)
    (start : store.server.tableAt? key stored = some table) (numbered : table.NumberedBy column)
    (hfirst : Table.nextId table.rows column = .ok first) :
    ∃ final added, (store.afterAll events).server.tableAt? key stored = some final ∧
      final.rows = table.rows ++ added ∧
      added.map (·.cell column) = (List.range count).map fun i : Nat => .int (first + i) := by
  induction run generalizing table first with
  | done => exact ⟨table, [], start, by simp, rfl⟩
  | insert reads targets isOpen rest ih =>
      cases start.symm.trans targets.tableAt?
      obtain ⟨row, hcell, targets'⟩ := after_insertion reads targets numbered isOpen hfirst
      obtain ⟨final, added, hfinal, hrows, hcells⟩ :=
        ih targets'.tableAt? (numbered.withRows _) (Table.nextId_append hfirst hcell)
      refine ⟨final, row :: added, hfinal, ?_, ?_⟩
      · rw [hrows, Table.withRows, List.append_assoc, List.singleton_append]
      · rw [List.map_cons, hcell, hcells, List.range_succ_eq_map, List.map_cons, List.map_map]
        simp [Function.comp_def, Int.add_assoc, Int.add_comm 1]
  | other untouched rest ih => exact ih (untouched.trans start) numbered hfirst

/-- The same insertion, again and again, is such a run. -/
theorem insertsOpen_replicate (reads : Statement.read query = .ok (.insert insertion))
    (targets : (Statement.insert insertion).Targets store.server current key stored table)
    (numbered : table.NumberedBy column) (isOpen : table.LeavesOpen insertion column)
    (hfirst : Table.nextId table.rows column = .ok first) (count : Nat) :
    InsertsOpen key stored column store (List.replicate count (.statement current query)) count := by
  induction count generalizing store table first with
  | zero => exact .done
  | succ count ih =>
      obtain ⟨row, hcell, targets'⟩ := after_insertion reads targets numbered isOpen hfirst
      exact .insert reads targets isOpen (ih targets' (numbered.withRows _) (isOpen.withRows _)
        (Table.nextId_append hfirst hcell))

/-- An insertion that leaves a numbered key open appends a row with a fresh id, and the insertions
after it get the ids that follow, as long as nothing else touches the table. Only if something in the
column reads as infinity does it fail, and then it changes nothing. -/
theorem fresh_ids (reads : Statement.read query = .ok (.insert insertion))
    (targets : (Statement.insert insertion).Targets store.server current key stored table)
    (numbered : table.NumberedBy column) (isOpen : table.LeavesOpen insertion column) :
    ((∀ row ∈ table.rows, (row.cell column).number? ≠ some infinity) →
      ∃ id, IsFresh table.rows column id ∧
        (∃ row, store.server.execute current query = (.ok (.done "1 row inserted." (some 1)),
            store.server.setTable key stored (table.withRows (table.rows ++ [row]))) ∧
          row.cell column = .int id) ∧
        (∀ count, InsertsOpen key stored column store
          (List.replicate count (.statement current query)) count) ∧
        ∀ events count, InsertsOpen key stored column store events count →
          ∃ final added, (store.afterAll events).server.tableAt? key stored = some final ∧
            final.rows = table.rows ++ added ∧
            added.map (·.cell column) = (List.range count).map fun i : Nat => .int (id + i)) ∧
      ((∃ row ∈ table.rows, (row.cell column).number? = some infinity) →
        store.server.execute current query = (.error .infiniteId, store.server)) := by
  constructor
  · intro finite
    obtain ⟨id, hid⟩ := Table.exists_nextId_iff.mpr finite
    exact ⟨id, Table.isFresh_nextId hid, execute_insertion reads targets numbered isOpen hid,
      insertsOpen_replicate reads targets numbered isOpen hid,
      fun events count run => run.consecutive targets.tableAt? numbered hid⟩
  · intro hinfinite
    obtain ⟨columns, -, hinsert⟩ := numbered.insert_eq isOpen
    have hperform : table.perform (.insert insertion) = .error .infiniteId := by
      rw [Table.nextId_eq_error hinfinite] at hinsert
      exact hinsert
    rw [Server.execute_of_targets reads targets, hperform]
    rfl

/-- A column with nothing, a negative integer, a fraction, NaN, the lower infinity, and a double beyond
which not every integer is one. -/
theorem fresh_ids_of_mixed_column :
    let rows : List Row := [[("id", .null)], [("id", .int (-5))], [("a", .text "x")],
      [("id", .text "2.5")], [("id", .text "nan")], [("id", .double (.infinite true))],
      [("id", .double (Double.ofDecimal false 9007199254740992 0))]]
    let table := Seed.table "t" [Seed.keyColumn "id" "int", Seed.plainColumn "a" "int"] rows
    let store := Store.ofSeed [("db", [("t", table)])]
    let query := "INSERT INTO T (a) VALUES ('y')"
    let again := List.replicate 3 (Event.statement (.named "db") query)
    Statement.read query = .ok (.insert ⟨"T", some ["a"], [.text "y"]⟩) ∧
      (Statement.insert ⟨"T", some ["a"], [.text "y"]⟩).Targets store.server (.named "db") "db" "t"
        table ∧
      table.NumberedBy "id" ∧ table.LeavesOpen ⟨"T", some ["a"], [.text "y"]⟩ "id" ∧
      (∀ row ∈ rows, (row.cell "id").number? ≠ some infinity) ∧
      ∃ id, IsFresh rows "id" id ∧
        (store.server.execute (.named "db") query).1 = .ok (.done "1 row inserted." (some 1)) ∧
        ∃ final added, (store.afterAll again).server.tableAt? "db" "t" = some final ∧
          final.rows = rows ++ added ∧
          added.map (·.cell "id") = [.int id, .int (id + 1), .int (id + 2)] := by
  intro rows table store query again
  have reads : Statement.read query = .ok (.insert ⟨"T", some ["a"], [.text "y"]⟩) := by
    decide +kernel
  have hsame : sameName "t" "T" = true := by decide +kernel
  have targets : (Statement.insert ⟨"T", some ["a"], [.text "y"]⟩).Targets store.server
      (.named "db") "db" "t" table := by
    refine ⟨rfl, "db", "T", [("t", table)], rfl, rfl, rfl, ?_⟩
    simp [Entries.find?, Entries.resolve?, Entries.keys, Entries.get?, hsame]
  have numbered : table.NumberedBy "id" := ⟨⟨["id", "a"], rfl⟩, _, rfl, by decide, rfl⟩
  have isOpen : table.LeavesOpen ⟨"T", some ["a"], [.text "y"]⟩ "id" := by
    rintro columns ⟨⟩
    decide
  have finite : ∀ row ∈ rows, (row.cell "id").number? ≠ some infinity :=
    forall_mem_of_all (by decide +kernel)
  obtain ⟨id, isFresh, ⟨row, hexecute, -⟩, hruns, hids⟩ :=
    (fresh_ids reads targets numbered isOpen).1 finite
  obtain ⟨final, added, hfinal, hrows, hcells⟩ := hids _ 3 (hruns 3)
  exact ⟨reads, targets, numbered, isOpen, finite, id, isFresh, congrArg Prod.fst hexecute, final,
    added, hfinal, hrows, by simpa [List.range_succ] using hcells⟩

end Store

end MockSql
