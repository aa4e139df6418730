/-
# Statements write by write

`Server.execute` gives a new server or a fault, so nothing in it could be written in part. Here the
same statements work on a live server instead: a table is changed where it stands, one write after
the other, and a statement that fails leaves behind whatever it has written until then. The two
agree on every statement. So each statement has done all that can fail before its first write, and
a failed statement leaves the server exactly as it was.
-/

import Mathlib.Control.Monad.Basic
import MockSql.Execution
import MockSql.Proofs.Entries
import MockSql.Proofs.Outcome
import MockSql.Proofs.Steps
import MockSql.Seed

namespace MockSql

/-- A program on a live state. What it has written when it fails stays written. -/
abbrev Live (σ : Type) := EStateM Fault σ

namespace Live

variable {σ τ α : Type}

/-- The value of a computation that only reads. -/
def reading (result : Except Fault α) : Live σ α :=
  match result with
  | .ok value => pure value
  | .error fault => throw fault

/-- Runs a program on a part of the state, which is put back when the program ends or fails. -/
def within (part : τ) (putBack : τ → σ) (program : Live τ α) : Live σ α := fun _ =>
  match program part with
  | .ok value changed => .ok value (putBack changed)
  | .error fault changed => .error fault (putBack changed)

/-- A change made by one write: the whole new state, or a fault and no write at all. -/
def commit (state : σ) : Except Fault (α × σ) → EStateM.Result Fault σ α
  | .ok (value, changed) => .ok value changed
  | .error fault => .error fault state

/-- What a program leaves: its value or its fault, and the state. -/
def outcome (result : EStateM.Result Fault σ α) : Except Fault α × σ :=
  match result with
  | .ok value state => (.ok value, state)
  | .error fault state => (.error fault, state)

section Tables

/-- Brings the number of rows up to date. -/
def countRows : Live Table Unit :=
  modify fun table => { table with rowCount := table.rows.length }

/-- Removes the rows, then counts them. -/
def truncate (name : String) : Live Table Answer := do
  modify fun table => { table with rows := [] }
  countRows
  return .done s!"Table '{name}' has been truncated." none

/-- Changes the rows one after the other, after those that are changed already. -/
def changeRows (change : Row → Row) (changed : List Row) : List Row → Live Table Unit
  | [] => return
  | row :: rest => do
    modify fun table => { table with rows := changed ++ change row :: rest }
    changeRows change (changed ++ [change row]) rest

/-- Takes a column out of the schema, then out of every row. -/
def dropColumn (column : String) : Live Table Answer := do
  let key ← reading ((← get).columnKey column)
  let _ ← reading (← get).columnNames
  modify fun table => { table with schema := table.schema.filter (!·.hasText "name" key) }
  changeRows (·.erase key) [] (← get).rows
  return .done s!"Column '{key}' dropped." none

/-- Puts a column at the end of the schema, then a cell into every row. -/
def addColumn (column type : String) : Live Table Answer := do
  match ← reading (firstName? (sameName · column) (← get).schema) with
  | some _ => throw (.takenColumn column)
  | none =>
    let added := ({ name := column, type } : ColumnDefinition).toColumn
    modify fun table => { table with schema := table.schema ++ [added] }
    changeRows (·.set column .null) [] (← get).rows
    return .done s!"Column '{column}' added." none

/-- Changes the columns. -/
def alter : ColumnChange → Live Table Answer
  | .drop column => dropColumn column
  | .add column type => addColumn column type

/-- The cell that a new row starts with. -/
def numberedCells (table : Table) (columns : List String) : Live Table Row := do
  match ← reading (table.numberedKey? columns) with
  | some key => return [(key, .int (← reading (Table.nextId table.rows key)))]
  | none => return []

/-- Appends a row, then counts the rows. -/
def insert (insertion : Insertion) : Live Table Answer := do
  let columns ← reading ((← get).targetColumns insertion)
  let start ← numberedCells (← get) columns
  let row := start.setAll (Table.pairCells columns insertion.values)
  modify fun table => { table with rows := table.rows ++ [row] }
  countRows
  return .done "1 row inserted." (some 1)

/-- Sets the cells of one row, each where the row stands. -/
def setCells (before rest : List Row) (row : Row) : Row → Live Table Unit
  | [] => return
  | (column, value) :: cells => do
    modify fun table => { table with rows := before ++ row.set column value :: rest }
    setCells before rest (row.set column value) cells

/-- Looks for the first row that matches, after those that do not, and sets its cells. -/
def updateFrom (update : Update) (before : List Row) : List Row → Live Table Answer
  | [] => throw .noMatchingRow
  | row :: rest => do
    if ← reading (Table.rowMatches update.column update.value row) then
      setCells before rest row update.assignments
      return .done "1 row updated." (some 1)
    else updateFrom update (before ++ [row]) rest

/-- Sets cells in the first row that matches. -/
def update (update : Update) : Live Table Answer := do
  updateFrom update [] (← get).rows

/-- Keeps the rows that equal none of the ids, then counts them. -/
def delete (deletion : Deletion) : Live Table Answer := do
  let key ← reading ((← get).columnKey deletion.column)
  let rows := (← get).rows
  let kept ← reading (Table.rowsWithout key deletion.ids rows)
  modify fun table => { table with rows := kept }
  let count := rows.length - kept.length
  countRows
  return .done s!"{count} row(s) deleted." (some count)

end Tables

/-- Runs a program on a table where it stands. -/
def onTable (name : String) (missing : Fault) (program : Live Table Answer) :
    Live Database Answer := do
  let database ← get
  match database.find? name with
  | none => throw missing
  | some (key, table) => within table (database.set key ·) program

/-- Adds a table. -/
def createTable (table : Table) : Live Database Unit := do
  match (← get).resolve? table.name with
  | some _ => throw (.takenTable table.name)
  | none => modify (·.set table.name table)

/-- Removes a table. -/
def dropTable (name : String) : Live Database Unit := do
  match (← get).resolve? name with
  | some key => modify (·.erase key)
  | none => throw (.missingTable name)

/-- Takes a table out, then puts it at the end under its new name. -/
def renameTable (old new : String) : Live Database Unit := do
  let database ← get
  match database.find? old with
  | none => throw (.missingTable old)
  | some (oldKey, table) =>
    if database.isTaken oldKey new then throw (.takenTable new)
    modify (·.erase oldKey)
    modify (·.set new { table with name := new })

/-- Runs a statement about tables. -/
def runInDatabase (given key : String) : Statement → Live Database Answer
  | .showTables => return (← get).listing key
  | .createTable name columns => do
    createTable (Table.ofDefinitions name columns)
    return .done s!"Table '{name}' created." none
  | .dropTable name => do
    dropTable name
    return .done s!"Table '{name}' dropped." none
  | .truncateTable name => onTable name (.missingTable name) (truncate name)
  | .renameTable old new => do
    renameTable old new
    return .done s!"Table '{old}' renamed to '{new}'." none
  | .alterTable name change => onTable name (.tableNotFound name) (alter change)
  | .select selection => do reading ((← get).select given selection)
  | .insert insertion => onTable insertion.table (.tableNotFound insertion.table) (insert insertion)
  | .update changes => onTable changes.table .noSuchTarget (update changes)
  | .delete deletion => onTable deletion.table (.tableNotFound deletion.table) (delete deletion)
  | .showDatabases | .createDatabase _ | .dropDatabase _ | .use _ => throw .noDatabase

/-- Runs a statement about tables in the current database, where it stands. -/
def runInCurrent (current : Current) (statement : Statement) : Live Server Answer := do
  let server ← get
  let (given, key, tables) ← reading (current.find server)
  within tables (server.set key ·) (runInDatabase given key statement)

/-- Runs a statement. -/
def runStatement (current : Current) : Statement → Live Server Answer
  | .showDatabases => return (← get).listing
  | .createDatabase name => do
    match (← get).resolve? name with
    | some _ => throw (.takenDatabase name)
    | none => modify (·.set name [])
    return .done s!"Database '{name}' created." none
  | .dropDatabase name => do
    match (← get).resolve? name with
    | some key => modify (·.erase key)
    | none => throw (.missingDatabase name)
    return .done s!"Database '{name}' dropped." none
  | .use name => do
    match (← get).resolve? name with
    | some key => return .done s!"Database changed to '{key}'." none
    | none => throw (.unknownDatabase name)
  | statement => runInCurrent current statement

/-- Reads a statement and runs it on the live server. -/
def execute (current : Current) (query : String) : Live Server Answer := do
  runStatement current (← reading (Statement.read query))

theorem reading_ok (value : α) (state : σ) :
    (reading (.ok value) : Live σ α).run state = .ok value state :=
  rfl

/-- A program that first looks at its state goes on with what it has seen. -/
theorem get_bind_run (next : σ → Live σ α) (state : σ) :
    (get >>= next).run state = (next state).run state :=
  rfl

/-! ## Statements about one table -/

/-- Changing the rows one after the other changes all of them. -/
theorem changeRows_run (change : Row → Row) (changed rows : List Row) {table : Table}
    (hrows : table.rows = changed ++ rows) :
    (changeRows change changed rows).run table =
      .ok () { table with rows := changed ++ rows.map change } := by
  induction rows generalizing changed table with
  | nil =>
      have hsame : { table with rows := changed ++ [].map change } = table := by
        simp only [List.map_nil, ← hrows]
      rw [hsame]
      rfl
  | cons row rest ih =>
      rw [changeRows, EStateM.run_bind, EStateM.run_modify]
      have hrest := @ih (changed ++ [change row])
        { table with rows := changed ++ change row :: rest } (by simp)
      simpa using hrest

/-- Setting the cells of a row one after the other sets all of them. -/
theorem setCells_run {before rest : List Row} {row cells : Row} {table : Table}
    (hrows : table.rows = before ++ row :: rest) :
    (setCells before rest row cells).run table =
      .ok () { table with rows := before ++ row.setAll cells :: rest } := by
  induction cells generalizing row table with
  | nil =>
      have hsame : { table with rows := before ++ row.setAll [] :: rest } = table := by
        simp only [Entries.setAll, List.foldl_nil, ← hrows]
      rw [hsame]
      rfl
  | cons cell cells ih =>
      rw [setCells, EStateM.run_bind, EStateM.run_modify]
      exact ih rfl

/-- Looking for the first matching row and changing it gives what `updateFirst?` gives. -/
theorem updateFrom_run (update : Update) (before rows : List Row) {table : Table}
    (hrows : table.rows = before ++ rows) :
    (updateFrom update before rows).run table =
      match Table.updateFirst? (Table.rowMatches update.column update.value)
        (·.setAll update.assignments) rows with
      | .ok (some changed) =>
        .ok (.done "1 row updated." (some 1)) { table with rows := before ++ changed }
      | .ok none => .error .noMatchingRow table
      | .error fault => .error fault table := by
  induction rows generalizing before with
  | nil => rfl
  | cons row rest ih =>
      rw [updateFrom, Table.updateFirst?, EStateM.run_bind]
      cases hmatch : Table.rowMatches update.column update.value row with
      | error fault => rfl
      | ok isMatch =>
          cases isMatch with
          | true =>
              simp only [reading_ok, if_true, EStateM.run_bind, setCells_run hrows]
              rfl
          | false =>
              have htail := ih (before ++ [row]) (by simp [hrows])
              simp only [reading_ok, Bool.false_eq_true, if_false, htail, bind_ok]
              cases hlater : Table.updateFirst? (Table.rowMatches update.column update.value)
                  (·.setAll update.assignments) rest with
              | error fault => rfl
              | ok later =>
                  cases later with
                  | none => rfl
                  | some changed => simp [bind_ok]

theorem truncate_run (name : String) (table : Table) :
    (truncate name).run table =
      commit table (.ok (.done s!"Table '{name}' has been truncated." none, table.withRows [])) :=
  rfl

theorem dropColumn_run (column : String) (table : Table) :
    (dropColumn column).run table = commit table (table.dropColumn column) := by
  rw [dropColumn, Table.dropColumn, get_bind_run]
  simp only [EStateM.run_bind]
  cases hkey : table.columnKey column with
  | error fault => rfl
  | ok key =>
      simp only [reading_ok, EStateM.run_get, bind_ok]
      cases hnames : table.columnNames with
      | error fault => rfl
      | ok names =>
          simp only [reading_ok, EStateM.run_modify, bind_ok]
          have hrows := @changeRows_run (·.erase key) [] table.rows
            { table with schema := table.schema.filter (!·.hasText "name" key) } rfl
          rw [hrows]
          rfl

theorem addColumn_run (column type : String) (table : Table) :
    (addColumn column type).run table = commit table (table.addColumn column type) := by
  rw [addColumn, Table.addColumn, get_bind_run]
  simp only [EStateM.run_bind]
  cases hfirst : firstName? (sameName · column) table.schema with
  | error fault => rfl
  | ok found =>
      cases found with
      | some name => rfl
      | none =>
          simp only [reading_ok, EStateM.run_bind, EStateM.run_get, EStateM.run_modify, bind_ok]
          have hrows := @changeRows_run (·.set column .null) [] table.rows
            { table with
              schema := table.schema ++ [({ name := column, type } : ColumnDefinition).toColumn] }
            rfl
          rw [hrows]
          rfl

theorem alter_run (change : ColumnChange) (table : Table) :
    (alter change).run table = commit table (table.alter change) := by
  cases change with
  | drop column => exact dropColumn_run column table
  | add column type => exact addColumn_run column type table

theorem insert_run (insertion : Insertion) (table : Table) :
    (insert insertion).run table = commit table (table.insert insertion) := by
  rw [insert, Table.insert, get_bind_run]
  simp only [EStateM.run_bind]
  cases hcolumns : table.targetColumns insertion with
  | error fault => rfl
  | ok columns =>
      simp only [reading_ok, EStateM.run_get, numberedCells, EStateM.run_bind, bind_ok]
      cases hnumbered : table.numberedKey? columns with
      | error fault => rfl
      | ok numbered =>
          cases numbered with
          | none => rfl
          | some key =>
              simp only [reading_ok, EStateM.run_bind, bind_ok]
              cases hid : Table.nextId table.rows key with
              | error fault => rfl
              | ok id => rfl

theorem update_run (changes : Update) (table : Table) :
    (update changes).run table = commit table (table.update changes) := by
  rw [update, Table.update, get_bind_run]
  simp only [updateFrom_run changes [] table.rows rfl]
  cases Table.updateFirst? (Table.rowMatches changes.column changes.value)
      (·.setAll changes.assignments) table.rows with
  | error fault => rfl
  | ok found => cases found <;> rfl

theorem delete_run (deletion : Deletion) (table : Table) :
    (delete deletion).run table = commit table (table.delete deletion) := by
  rw [delete, Table.delete, get_bind_run]
  simp only [EStateM.run_bind]
  cases hkey : table.columnKey deletion.column with
  | error fault => rfl
  | ok key =>
      simp only [reading_ok, EStateM.run_get, bind_ok]
      cases hkept : Table.rowsWithout key deletion.ids table.rows with
      | error fault => rfl
      | ok kept => rfl

/-! ## Statements about a database -/

/-- A program that changes a part by one write, or not at all, does the same to the whole. -/
theorem within_run {part : τ} {state : σ} (putBack : τ → σ) {program : Live τ α}
    {result : Except Fault (α × τ)} (hrestores : putBack part = state)
    (hprogram : program.run part = commit part result) :
    (within part putBack program).run state =
      commit state (result.map fun (value, changed) => (value, putBack changed)) := by
  have hpart : program part = commit part result := hprogram
  cases result with
  | error fault => simp [EStateM.run, within, hpart, commit, Except.map, hrestores]
  | ok written => simp [EStateM.run, within, hpart, commit, Except.map]

theorem onTable_run (name : String) (missing : Fault) {program : Live Table Answer}
    {change : Table → Except Fault (Answer × Table)}
    (hprogram : ∀ table, program.run table = commit table (change table)) (database : Database) :
    (onTable name missing program).run database =
      commit database (database.onTable name missing change) := by
  rw [onTable, Database.onTable, get_bind_run]
  cases hfind : database.find? name with
  | none => rfl
  | some found =>
      obtain ⟨key, table⟩ := found
      have hsame := Entries.set_get?_self (Entries.find?_eq_some hfind).2
      have hwithin := within_run (database.set key ·) hsame
        (hprogram table)
      simp only [hwithin]
      cases change table <;> rfl

theorem createTable_run (table : Table) (database : Database) :
    (createTable table).run database = commit database ((database.create table).map ((), ·)) := by
  rw [createTable, Database.create, get_bind_run]
  cases hresolve : database.resolve? table.name <;> rfl

theorem dropTable_run (name : String) (database : Database) :
    (dropTable name).run database = commit database ((database.drop name).map ((), ·)) := by
  rw [dropTable, Database.drop, get_bind_run]
  cases hresolve : database.resolve? name <;> rfl

theorem renameTable_run (old new : String) (database : Database) :
    (renameTable old new).run database =
      commit database ((database.rename old new).map ((), ·)) := by
  rw [renameTable, Database.rename, get_bind_run]
  cases hfind : database.find? old with
  | none => rfl
  | some found =>
      obtain ⟨oldKey, table⟩ := found
      cases htaken : database.isTaken oldKey new <;> simp only [htaken] <;> rfl

/-- A change by one write, followed by an answer, is a change by one write. -/
theorem answered_run {program : Live σ Unit} {state : σ} {result : Except Fault σ} (answer : α)
    (hprogram : program.run state = commit state (result.map ((), ·))) :
    (program >>= fun _ => pure answer).run state =
      commit state (result >>= fun changed => .ok (answer, changed)) := by
  rw [EStateM.run_bind, hprogram]
  cases result <;> rfl

theorem runInDatabase_run (given key : String) (statement : Statement) (database : Database) :
    (runInDatabase given key statement).run database =
      commit database (database.run given key statement) := by
  cases statement with
  | showTables => rfl
  | createTable name columns => exact answered_run _ (createTable_run _ database)
  | dropTable name => exact answered_run _ (dropTable_run name database)
  | truncateTable name => exact onTable_run name _ (truncate_run name) database
  | renameTable old new => exact answered_run _ (renameTable_run old new database)
  | alterTable name change => exact onTable_run name _ (alter_run change) database
  | select selection =>
      rw [runInDatabase, Database.run, get_bind_run]
      cases hselect : database.select given selection <;> rfl
  | insert insertion => exact onTable_run insertion.table _ (insert_run insertion) database
  | update changes => exact onTable_run changes.table _ (update_run changes) database
  | delete deletion => exact onTable_run deletion.table _ (delete_run deletion) database
  | showDatabases | createDatabase | dropDatabase | use => rfl

theorem runInCurrent_run (current : Current) (statement : Statement) (server : Server) :
    (runInCurrent current statement).run server = commit server (do
      let (given, key, tables) ← current.find server
      let (answer, changed) ← tables.run given key statement
      .ok (answer, server.set key changed)) := by
  rw [runInCurrent, get_bind_run]
  simp only [EStateM.run_bind]
  cases hfind : current.find server with
  | error fault => rfl
  | ok found =>
      obtain ⟨given, key, tables⟩ := found
      have hstored := (Current.find_eq_ok hfind).2
      have hsame := Entries.set_get?_self (Entries.find?_eq_some hstored).2
      have hwithin := within_run (server.set key ·) hsame
        (runInDatabase_run given key statement tables)
      simp only [reading_ok, hwithin, bind_ok]
      cases tables.run given key statement <;> rfl

theorem runStatement_run (current : Current) (statement : Statement) (server : Server) :
    (runStatement current statement).run server =
      commit server (server.run current statement) := by
  cases statement with
  | showDatabases => rfl
  | createDatabase name =>
      rw [runStatement, Server.run, Server.createDatabase, get_bind_run]
      cases hresolve : server.resolve? name <;> rfl
  | dropDatabase name =>
      rw [runStatement, Server.run, Server.dropDatabase, get_bind_run]
      cases hresolve : server.resolve? name <;> rfl
  | use name =>
      rw [runStatement, Server.run, get_bind_run]
      cases hresolve : server.resolve? name <;> rfl
  | _ => exact runInCurrent_run current _ server

/-- Written in part or not, a query comes to the same. -/
theorem execute_run (current : Current) (query : String) (server : Server) :
    outcome ((execute current query).run server) = server.execute current query := by
  unfold execute Server.execute
  generalize Statement.read query = result
  cases result with
  | error fault => rfl
  | ok statement =>
      rw [EStateM.run_bind, reading_ok]
      simp only [runStatement_run, Except.bind]
      cases server.run current statement <;> rfl

end Live

namespace Server

/-- A query that fails leaves the server as it was. -/
theorem execute_eq_self {server : Server} {current : Current} {query : String} {fault : Fault}
    (hfails : (server.execute current query).1 = .error fault) :
    (server.execute current query).2 = server := by
  unfold execute at hfails ⊢
  split at hfails
  next => cases hfails
  next => rfl

/-- A server that writes as it goes ends with the answer and the state of `Server.execute`. If the
query fails, it has not written anything by then. -/
theorem failed_query_writes_nothing (server : Server) (current : Current) (query : String) :
    Live.outcome ((Live.execute current query).run server) = server.execute current query ∧
      ∀ fault : Fault, (server.execute current query).1 = .error fault →
        (Live.execute current query).run server = .error fault server ∧
          (server.execute current query).2 = server := by
  have houtcome := Live.execute_run current query server
  refine ⟨houtcome, ?_⟩
  intro fault hfails
  have hleft := execute_eq_self hfails
  refine ⟨?_, hleft⟩
  cases hrun : (Live.execute current query).run server with
  | ok answer changed =>
      rw [hrun] at houtcome
      rw [← houtcome] at hfails
      cases hfails
  | error found left =>
      rw [hrun] at houtcome
      rw [← houtcome] at hfails hleft
      cases hfails
      rw [show left = server from hleft]

/-- An update that compares its text with the ids of all five users, and finds no match. -/
theorem failed_query_writes_nothing_of_unmatched :
    (Seed.server.execute (.named "Demo_DB")
        "UPDATE users SET name = 'Nobody', email = '' WHERE id = '6'").1 = .error .noMatchingRow ∧
      (Live.execute (.named "Demo_DB")
        "UPDATE users SET name = 'Nobody', email = '' WHERE id = '6'").run Seed.server =
          .error .noMatchingRow Seed.server :=
  have hfails : (Seed.server.execute (.named "Demo_DB")
      "UPDATE users SET name = 'Nobody', email = '' WHERE id = '6'").1 = .error .noMatchingRow := by
    decide +kernel
  ⟨hfails, ((failed_query_writes_nothing _ _ _).2 _ hfails).1⟩

end Server

end MockSql
