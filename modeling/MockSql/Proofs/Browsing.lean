/-
# Looking at a server

The API shows the databases of a server, the tables of a database and the schema of a table, each at
a path of its own; a statement lists the same databases and tables, and a selection has the columns
of the schema. The paths and the statements find a name in the same way, so they fail for the same
names and list the same in the same order. The schema comes with the stored number of rows, which
agrees with the rows themselves along every run from a coherent seed; and a selection succeeds
because every column has a name, which the columns that a statement creates have.
-/

import Mathlib.Data.List.TakeWhile
import MockSql.Proofs.Coherence
import MockSql.Proofs.Selections
import MockSql.Proofs.Wire

namespace MockSql

open MockSql.Text

/-- Something holds of every column of a table. -/
def Table.EveryColumn (holds : Column → Prop) (table : Table) : Prop :=
  ∀ column ∈ table.schema, holds column

/-- Something holds of every column of a database. -/
def Database.EveryColumn (holds : Column → Prop) (database : Database) : Prop :=
  ∀ entry ∈ database, entry.2.EveryColumn holds

/-- Something holds of every column of a server. -/
def Server.EveryColumn (holds : Column → Prop) (server : Server) : Prop :=
  ∀ entry ∈ server, Database.EveryColumn holds entry.2

section Decidable

variable (holds : Column → Prop) [DecidablePred holds]

instance (table : Table) : Decidable (table.EveryColumn holds) :=
  inferInstanceAs (Decidable (∀ column ∈ table.schema, holds column))

instance (database : Database) : Decidable (database.EveryColumn holds) :=
  inferInstanceAs (Decidable (∀ entry ∈ database, entry.2.EveryColumn holds))

instance (server : Server) : Decidable (server.EveryColumn holds) :=
  inferInstanceAs (Decidable (∀ entry ∈ server, Database.EveryColumn holds entry.2))

end Decidable

section Runs

variable {holds : Column → Prop}
  (created : ∀ definition : ColumnDefinition, holds definition.toColumn)
include created

/-- What holds of the columns of a table and of each that a statement creates holds of the columns
after an edit. -/
theorem Table.Edit.everyColumn {table after : Table} (edited : table.Edit after)
    (every : table.EveryColumn holds) : after.EveryColumn holds := by
  cases edited with
  | truncate => exact every
  | @alter name change answer after readable succeeds =>
      cases change with
      | drop column =>
          obtain ⟨key, -, -, rfl⟩ := dropColumn_eq_ok succeeds
          exact fun column hcolumn => every column (List.mem_filter.mp hcolumn).1
      | add column type =>
          obtain ⟨-, -, rfl⟩ := addColumn_eq_ok succeeds
          exact List.forall_mem_append.mpr ⟨every, List.forall_mem_singleton.mpr (created _)⟩
  | insert readable succeeds =>
      obtain ⟨_, _, _, _, _, _, _, rfl⟩ := insert_eq_ok succeeds
      exact every
  | update readable succeeds =>
      obtain ⟨_, _, _, _, _, _, _, rfl⟩ := update_eq_ok succeeds
      exact every
  | delete readable succeeds =>
      obtain ⟨_, _, _, _, _, rfl⟩ := delete_eq_ok succeeds
      exact every

theorem Database.Step.everyColumn {database after : Database} (step : database.Step after)
    (every : database.EveryColumn holds) : after.EveryColumn holds := by
  cases step with
  | keep => exact every
  | create readable free =>
      refine (Entries.forall_set_iff every).mpr ?_
      exact List.forall_mem_map.mpr fun definition hdefinition => created definition
  | drop found => exact Entries.forall_erase every
  | rename found free =>
      exact (Entries.forall_set_iff (Entries.forall_erase every)).mpr
        (every _ (Entries.mem_of_find? found))
  | edit found edited =>
      exact (Entries.forall_set_iff every).mpr
        (edited.everyColumn created (every _ (Entries.mem_of_find? found)))

theorem Server.Step.everyColumn {server after : Server} (step : server.Step after)
    (every : server.EveryColumn holds) : after.EveryColumn holds := by
  cases step with
  | keep => exact every
  | create name free =>
      exact (Entries.forall_set_iff every).mpr fun entry hentry => nomatch hentry
  | drop found => exact Entries.forall_erase every
  | inside found step =>
      exact (Entries.forall_set_iff every).mpr
        (step.everyColumn created (every _ (Entries.mem_of_find? found)))

/-- What holds of the columns of a seed and of each that a statement creates holds of every column
after a run. -/
theorem Store.everyColumn_afterAll {seed : Server} (every : seed.EveryColumn holds)
    (events : List Event) : ((Store.ofSeed seed).afterAll events).server.EveryColumn holds :=
  afterAll_induction (fun held step => step.everyColumn created held) every every events

end Runs

namespace Column

/-- Whether a column has a name. -/
def IsNamed (column : Column) : Prop :=
  column.name.isOk = true

/-- Whether the attributes of a column can be written. -/
def IsWritable (column : Column) : Prop :=
  column.toJson.isWritable = true

instance : DecidablePred IsNamed :=
  fun column => inferInstanceAs (Decidable (column.name.isOk = true))

instance : DecidablePred IsWritable :=
  fun column => inferInstanceAs (Decidable (column.toJson.isWritable = true))

end Column

/-- A column that a statement creates has the name of its definition. -/
theorem ColumnDefinition.toColumn_isNamed (definition : ColumnDefinition) :
    definition.toColumn.IsNamed :=
  rfl

/-- A column that a statement creates has texts and truth values, and all of these can be written. -/
theorem ColumnDefinition.toColumn_isWritable (definition : ColumnDefinition) :
    definition.toColumn.IsWritable := by
  obtain ⟨name, type, nullable, key, default, autoIncrement, reference⟩ := definition
  cases default <;> cases reference <;> rfl

/-- Columns that have names have a list of names. -/
theorem Table.exists_columnNames {table : Table} (named : table.EveryColumn Column.IsNamed) :
    ∃ columns, table.columnNames = .ok columns := by
  cases hcolumns : table.columnNames with
  | ok columns => exact ⟨columns, rfl⟩
  | error fault =>
      obtain ⟨column, hcolumn, hname⟩ := exists_of_mapM_eq_error hcolumns
      have hnamed := named column hcolumn
      rw [Column.IsNamed, hname] at hnamed
      cases hnamed

namespace Server

variable {server : Server} {key : String} {tables : Database}

/-- The databases are listed in their order, whatever the current one is. -/
theorem execute_showDatabases (server : Server) (current : Current) :
    server.execute current "SHOW DATABASES" = (.ok server.listing, server) := by
  have hread : Statement.read "SHOW DATABASES" = .ok .showDatabases := by decide +kernel
  rw [execute_of_ok current hread]
  rfl

section Tables

variable {database : String}

theorem read_showTables : Statement.read "SHOW TABLES" = .ok .showTables := by
  decide +kernel

/-- The tables of a database that is there are listed in their order. -/
theorem execute_showTables (found : server.find? database = some (key, tables)) :
    (server.execute (.named database) "SHOW TABLES").1 = .ok (tables.listing key) := by
  rw [execute_of_ok _ read_showTables, run_table rfl]
  simp only [Current.find, found, bind_ok, Database.run, settle]

/-- A statement about tables fails without its database. -/
theorem execute_of_noDatabase {query : String} {statement : Statement}
    (hread : Statement.read query = .ok statement) (needs : statement.needsDatabase = true)
    (missing : server.find? database = none) :
    server.execute (.named database) query = (.error .noDatabase, server) := by
  rw [execute_of_ok _ hread, run_table needs]
  simp only [Current.find, missing, bind_error, settle]

/-- A selection without clauses is written with the name of its table at its end. -/
theorem selectionText_all (name : String) :
    selectionText name none .all = "SELECT * FROM " ++ name := by
  have hchars : selectionChars name none .all = "SELECT * FROM ".toList ++ (name.toList ++ []) := rfl
  rw [selectionText, hchars, List.append_nil, ← String.toList_append, String.ofList_toList]

theorem read_selectAll {name : String} (isName : IsName name) :
    Statement.read ("SELECT * FROM " ++ name) = .ok (.select (selectionOf name none .all)) := by
  rw [← selectionText_all]
  exact read_selectionText isName (by simp) trivial

/-- All rows of a table that is there are selected with the names of its columns. -/
theorem execute_selectAll {name stored : String} {table : Table} {columns : List String}
    (isName : IsName name) (found : server.find? database = some (key, tables))
    (stands : tables.find? name = some (stored, table)) (hcolumns : table.columnNames = .ok columns) :
    (server.execute (.named database) ("SELECT * FROM " ++ name)).1 =
      .ok (.rows columns table.rows (some table.rows.length)) := by
  have htarget : server.target? (.named database) name = some table := by
    simp only [target?, Current.find, found, stands, Option.map_some]
  have hexecute := @execute_selectionText server (.named database) name table columns table.rows
    none .all htarget hcolumns isName (by simp) trivial rfl
  rw [← selectionText_all, hexecute]
  rfl

/-- A selection from a table that is not there fails. -/
theorem execute_selectAll_of_noTable {name : String} (isName : IsName name)
    (found : server.find? database = some (key, tables)) (missing : tables.find? name = none) :
    (server.execute (.named database) ("SELECT * FROM " ++ name)).1 =
      .error (.noSuchSource database) := by
  have hsource : (selectionOf name none .all).source = some name := rfl
  rw [execute_of_ok _ (read_selectAll isName), run_table rfl]
  simp only [Current.find, found, bind_ok, Database.run, Database.select, hsource,
    Option.bind_some, missing, bind_error, settle]

end Tables

end Server

/-! ## Paths -/

namespace Http

/-- A request that looks at what stands at a path of some segments, with a slash before each. -/
def lookAt (names : List String) : Request :=
  ⟨"GET", "/" ++ "/".intercalate names, .empty⟩

/-- A text without percent signs has no characters that are written as their codes. -/
theorem unescape_eq_self {text : List Char} (hplain : '%' ∉ text) : unescape text = text := by
  unfold unescape
  induction text with
  | nil => rfl
  | cons c rest ih =>
      obtain ⟨hc, hrest⟩ := List.ne_and_not_mem_of_not_mem_cons hplain
      rw [unescapeFrom, ih hrest]
      · rfl
      · exact fun _ _ _ hcode _ => hc hcode.symm

/-- An address that begins with a single slash is a path, without a scheme and a host before it. -/
theorem pathOf_slash {c : Char} {rest : List Char} (hc : c ≠ '/') (hquery : '?' ∉ c :: rest)
    (hanchor : '#' ∉ c :: rest) : pathOf ('/' :: c :: rest) = '/' :: c :: rest := by
  have hscheme : afterScheme ('/' :: c :: rest) = '/' :: c :: rest := rfl
  have hhost : afterHost ('/' :: c :: rest) = '/' :: c :: rest := by
    unfold afterHost
    split
    next heq =>
      cases heq
      exact absurd rfl hc
    next => rfl
  rw [pathOf, hscheme, hhost, List.takeWhile_eq_self_iff]
  refine List.forall_mem_cons.mpr ⟨by decide, fun d hd => ?_⟩
  have hne : d ≠ '?' ∧ d ≠ '#' := ⟨fun h => hquery (h ▸ hd), fun h => hanchor (h ▸ hd)⟩
  simp [hne]

section Names

variable {names : List String} (areNames : ∀ name ∈ names, IsName name)
include areNames

/-- Names with slashes between them begin with a word character. -/
theorem exists_cons_intercalate (hsome : names ≠ []) :
    ∃ c rest, ['/'].intercalate (names.map String.toList) = c :: rest ∧ isWord c = true := by
  obtain ⟨name, others, rfl⟩ := List.exists_cons_of_ne_nil hsome
  obtain ⟨c, rest, hname, hword⟩ := (areNames name List.mem_cons_self).exists_cons
  cases others with
  | nil => exact ⟨c, rest, by simp [hname], hword⟩
  | cons other others =>
      rw [List.map_cons, List.map_cons, List.intercalate_cons_cons, hname]
      exact ⟨c, _, rfl, hword⟩

/-- The segments of a path of names are the names: no word character means anything in an address. -/
theorem segments_lookAt (hsome : names ≠ []) : segments (lookAt names).path = names := by
  have hpath : (lookAt names).path.toList = '/' :: ['/'].intercalate (names.map String.toList) := by
    rw [lookAt, String.toList_append, String.toList_intercalate]
    rfl
  have hnot {mark : Char} (hmark : isWord mark = false) (hslash : mark ∉ ['/']) :=
    not_mem_intercalate areNames hmark hslash
  have hpieces : (['/'].intercalate (names.map String.toList)).splitOn '/' =
      names.map String.toList := by
    refine List.splitOn_intercalate '/' (List.forall_mem_map.mpr fun name hname hmem => ?_)
      (by simpa using hsome)
    exact ne_of_isWord ((areNames name hname).isWord_of_mem hmem) (by decide) rfl
  obtain ⟨c, rest, hrest, hword⟩ := exists_cons_intercalate areNames hsome
  have hc : c ≠ '/' := ne_of_isWord hword (by decide)
  rw [hrest] at hpath hnot hpieces
  have hpercent : '%' ∉ '/' :: c :: rest :=
    List.not_mem_cons_of_ne_of_not_mem (by decide) (hnot (by decide) (by decide))
  have hdrop : ('/' :: c :: rest).dropWhile (· == '/') = c :: rest := by simp [hc]
  rw [segments, hpath, pathOf_slash hc (hnot (by decide) (by decide)) (hnot (by decide) (by decide)),
    unescape_eq_self hpercent, hdrop, hpieces, List.map_map]
  simp

end Names

/-- The answer that gives some members, unless an integer in them has too many digits. -/
def written (members : Entries Json) : Response :=
  (respond 200 members).getD internalError

/-- The members of an answer that lists names of a kind. -/
def listed (kind : String) (names : List String) : Entries Json :=
  [("success", .bool true), (kind, .texts names), ("count", .int names.length)]

/-- The members of an answer that describes a table. -/
def described (key : String) (schema : List Column) (rowCount : Nat) (engine collation : String) :
    Entries Json :=
  [("success", .bool true), ("table", .text key), ("schema", .array (schema.map (·.toJson))),
    ("stats", .object [("row_count", .int rowCount), ("columns", .int schema.length),
      ("engine", .text engine), ("collation", .text collation)])]

/-- What is there is shown, or the server has an error of its own. -/
theorem status_written_ne (members : Entries Json) : (written members).status ≠ 404 := by
  simp only [written, respond]
  split <;> simp [internalError]

theorem status_written {members : Entries Json}
    (writable : (Json.object members).isWritable = true) : (written members).status = 200 := by
  rw [written, respond_eq 200 writable, Option.getD_some]

/-- A list of names can be written if its length can. -/
theorem status_listed (kind : String) {names : List String}
    (printable : Number.isPrintable names.length = true) :
    (written (listed kind names)).status = 200 := by
  have hcount : (Json.int names.length).isWritable = true := printable
  apply status_written
  simp [listed, Json.isWritable, Json.membersWritable, Json.bool, Json.texts_isWritable, hcount]

/-- A description of a table can be written if its columns and the numbers of these and of the rows
can. -/
theorem status_described (key : String) {schema : List Column} {rowCount : Nat}
    (engine collation : String) (writable : ∀ column ∈ schema, column.IsWritable)
    (columns : Number.isPrintable schema.length = true)
    (rows : Number.isPrintable rowCount = true) :
    (written (described key schema rowCount engine collation)).status = 200 := by
  have hcolumns : (Json.int schema.length).isWritable = true := columns
  have hrows : (Json.int rowCount).isWritable = true := rows
  have hschema : Json.areWritable (schema.map (·.toJson)) = true :=
    Json.areWritable_iff.mpr (List.forall_mem_map.mpr writable)
  apply status_written
  simp [described, Json.isWritable, Json.membersWritable, Json.bool, Json.text, hschema, hcolumns,
    hrows]

/-! ## Requests that look at something -/

section Requests

variable {store : Store} {database : String}

/-- A request at the path of an endpoint that is only looked at. -/
theorem serve_lookAt {names : List String} {endpoint : Endpoint}
    (areNames : ∀ name ∈ names, IsName name) (hsome : names ≠ [])
    (hendpoint : Endpoint.ofSegments? names = some endpoint)
    (reads : endpoint.isReading = true) :
    serve store (lookAt names) =
      ((handle endpoint .empty store).1.getD internalError, (handle endpoint .empty store).2) := by
  have hpath : Endpoint.ofSegments? (segments (lookAt names).path) = some endpoint := by
    rw [segments_lookAt areNames hsome, hendpoint]
  have htakes : endpoint.methods.contains "GET" = true := by
    rw [Endpoint.methods, if_pos reads]
    decide
  exact serve_endpoint hpath (by decide +kernel) htakes (by decide)

theorem serve_databases (store : Store) :
    serve store (lookAt ["databases"]) = (written (listed "databases" store.server.keys), store) := by
  rw [serve_lookAt (by decide) (by decide) rfl rfl, written, listed, Entries.keys, List.length_map]
  rfl

section Names

variable (isDatabase : IsName database)
include isDatabase

theorem serve_tables :
    serve store (lookAt ["databases", database, "tables"]) =
      ((listTables store.server database).getD internalError, store) := by
  have areNames : ∀ name ∈ ["databases", database, "tables"], IsName name := by
    simp only [List.forall_mem_cons, isDatabase, true_and]
    decide
  have hendpoint : Endpoint.ofSegments? ["databases", database, "tables"] =
      some (.tables database) := by
    simp [Endpoint.ofSegments?, isDatabase.ne_empty]
  exact serve_lookAt areNames (List.cons_ne_nil _ _) hendpoint rfl

theorem serve_schema {name : String} (isTable : IsName name) :
    serve store (lookAt ["databases", database, "tables", name, "schema"]) =
      ((describeTable store.server database name).getD internalError, store) := by
  have areNames : ∀ segment ∈ ["databases", database, "tables", name, "schema"],
      IsName segment := by
    simp only [List.forall_mem_cons, isDatabase, isTable, true_and]
    decide
  have hendpoint : Endpoint.ofSegments? ["databases", database, "tables", name, "schema"] =
      some (.schema database name) := by
    simp [Endpoint.ofSegments?, isDatabase.ne_empty, isTable.ne_empty]
  exact serve_lookAt areNames (List.cons_ne_nil _ _) hendpoint rfl

/-- The tables of a database are shown where a statement lists them, the same in the same order. -/
theorem tables_agree (store : Store) :
    let response := serve store (lookAt ["databases", database, "tables"])
    let outcome := (store.server.execute (.named database) "SHOW TABLES").1
    (response.1.status = 404 ↔ ∃ fault, outcome = .error fault) ∧
      ∀ answer, outcome = .ok answer → ∃ column names,
        answer = .rows [column] (names.map fun name => [(column, .text name)]) none ∧
        response = (written (listed "tables" names), store) ∧
        (Number.isPrintable names.length = true → response.1.status = 200) := by
  have hserve := @serve_tables store database isDatabase
  cases hfind : store.server.find? database with
  | none =>
      have hmissing : listTables store.server database =
          some (failure 404 s!"Database '{database}' not found") := by
        simp only [listTables, hfind]
      rw [hserve, hmissing, Server.execute_of_noDatabase Server.read_showTables rfl hfind]
      exact ⟨iff_of_true rfl ⟨.noDatabase, rfl⟩, by simp⟩
  | some found =>
      obtain ⟨key, tables⟩ := found
      have hshown : (listTables store.server database).getD internalError =
          written (listed "tables" tables.keys) := by
        simp only [listTables, hfind, written, listed, Entries.keys, List.length_map]
      rw [hserve, hshown, Server.execute_showTables hfind]
      refine ⟨iff_of_false (status_written_ne _) (by simp), ?_⟩
      rintro answer ⟨⟩
      exact ⟨_, tables.keys, rfl, rfl, status_listed "tables"⟩

/-- The schema of a table is shown where its rows can be selected: its columns are those of the
selection, in order, and its number of rows is the number of all rows there. -/
theorem schema_agrees {store : Store} {name : String} (isTable : IsName name)
    (coherent : store.server.Coherent) (named : store.server.EveryColumn Column.IsNamed) :
    let response := serve store (lookAt ["databases", database, "tables", name, "schema"])
    let outcome := (store.server.execute (.named database) ("SELECT * FROM " ++ name)).1
    (response.1.status = 404 ↔ ∃ fault, outcome = .error fault) ∧
      ∀ answer, outcome = .ok answer → ∃ columns rows total key schema engine collation,
        answer = .rows columns rows (some total) ∧ schema.mapM Column.name = .ok columns ∧
        response = (written (described key schema total engine collation), store) ∧
        (store.server.EveryColumn Column.IsWritable → Number.isPrintable schema.length = true →
          Number.isPrintable total = true → response.1.status = 200) := by
  have hserve := @serve_schema store database isDatabase name isTable
  cases hfind : store.server.find? database with
  | none =>
      have hmissing : describeTable store.server database name =
          some (failure 404 s!"Database '{database}' not found") := by
        simp only [describeTable, hfind]
      rw [hserve, hmissing, Server.execute_of_noDatabase (Server.read_selectAll isTable) rfl hfind]
      exact ⟨iff_of_true rfl ⟨.noDatabase, rfl⟩, by simp⟩
  | some found =>
      obtain ⟨key, tables⟩ := found
      cases hstands : tables.find? name with
      | none =>
          have hmissing : describeTable store.server database name =
              some (failure 404 s!"Table '{name}' not found in database '{database}'") := by
            simp only [describeTable, hfind, hstands]
          rw [hserve, hmissing, Server.execute_selectAll_of_noTable isTable hfind hstands]
          exact ⟨iff_of_true rfl ⟨.noSuchSource database, rfl⟩, by simp⟩
      | some entry =>
          obtain ⟨stored, table⟩ := entry
          have hdatabase := Entries.mem_of_find? hfind
          have htable := Entries.mem_of_find? hstands
          obtain ⟨columns, hcolumns⟩ := Table.exists_columnNames (named _ hdatabase _ htable)
          have hcount := ((coherent.databases _ hdatabase).tables _ htable).rowCount_eq
          have hshown : (describeTable store.server database name).getD internalError =
              written (described stored table.schema table.rows.length table.engine
                table.collation) := by
            simp only [describeTable, hfind, hstands, written, described, ← hcount]
          rw [hserve, hshown, Server.execute_selectAll isTable hfind hstands hcolumns]
          refine ⟨iff_of_false (status_written_ne _) (by simp), ?_⟩
          rintro answer ⟨⟩
          exact ⟨columns, _, _, stored, table.schema, table.engine, table.collation, rfl, hcolumns,
            rfl, fun writable => status_described _ _ _ (writable _ hdatabase _ htable)⟩

end Names

end Requests

/-- After every run from a coherent seed whose columns have names, what the API shows agrees with
what statements answer, in whatever spelling the database and the table are given. The databases are
the listed ones. A database is missing exactly if its tables cannot be listed, and otherwise they
are the listed ones in the same order. A table is missing exactly if its rows cannot be selected, and
otherwise its schema names the columns of the selection in order, with the number of all rows. -/
theorem browsing_agrees {seed : Server} (coherent : seed.Coherent)
    (named : seed.EveryColumn Column.IsNamed) (events : List Event) {database name : String}
    (isDatabase : IsName database) (isTable : IsName name) :
    let store := (Store.ofSeed seed).afterAll events
    let outcome (query : String) := (store.server.execute (.named database) query).1
    let databases := serve store (lookAt ["databases"])
    let tables := serve store (lookAt ["databases", database, "tables"])
    let schema := serve store (lookAt ["databases", database, "tables", name, "schema"])
    (∃ names,
      (∀ current, (store.server.execute current "SHOW DATABASES").1 =
        .ok (.rows ["Database"] (names.map fun name => [("Database", .text name)]) none)) ∧
      databases = (written (listed "databases" names), store) ∧
      (Number.isPrintable names.length = true → databases.1.status = 200)) ∧
    (tables.1.status = 404 ↔ ∃ fault, outcome "SHOW TABLES" = .error fault) ∧
    (∀ answer, outcome "SHOW TABLES" = .ok answer → ∃ column names,
      answer = .rows [column] (names.map fun name => [(column, .text name)]) none ∧
      tables = (written (listed "tables" names), store) ∧
      (Number.isPrintable names.length = true → tables.1.status = 200)) ∧
    (schema.1.status = 404 ↔ ∃ fault, outcome ("SELECT * FROM " ++ name) = .error fault) ∧
    ∀ answer, outcome ("SELECT * FROM " ++ name) = .ok answer →
      ∃ columns rows total key description engine collation,
        answer = .rows columns rows (some total) ∧ description.mapM Column.name = .ok columns ∧
        schema = (written (described key description total engine collation), store) ∧
        (seed.EveryColumn Column.IsWritable → Number.isPrintable description.length = true →
          Number.isPrintable total = true → schema.1.status = 200) := by
  have hcoherent : ((Store.ofSeed seed).afterAll events).server.Coherent :=
    Store.afterAll_induction (fun held step => step.coherent held) coherent coherent events
  have hnamed : ((Store.ofSeed seed).afterAll events).server.EveryColumn Column.IsNamed :=
    Store.everyColumn_afterAll ColumnDefinition.toColumn_isNamed named events
  have hwritable (writable : seed.EveryColumn Column.IsWritable) :
      ((Store.ofSeed seed).afterAll events).server.EveryColumn Column.IsWritable :=
    Store.everyColumn_afterAll ColumnDefinition.toColumn_isWritable writable events
  generalize (Store.ofSeed seed).afterAll events = store at hcoherent hnamed hwritable ⊢
  have hdatabases := serve_databases store
  obtain ⟨tablesMissing, tablesShown⟩ := tables_agree isDatabase store
  obtain ⟨schemaMissing, schemaShown⟩ := schema_agrees isDatabase isTable hcoherent hnamed
  refine ⟨⟨store.server.keys, ?_, hdatabases, ?_⟩, tablesMissing, tablesShown, schemaMissing, ?_⟩
  · intro current
    rw [Server.execute_showDatabases]
    rfl
  · intro printable
    rw [hdatabases]
    exact status_listed "databases" printable
  · intro answer hanswer
    obtain ⟨columns, rows, total, key, description, engine, collation, hrows, hcolumns, hresponse,
      hstatus⟩ := schemaShown answer hanswer
    exact ⟨columns, rows, total, key, description, engine, collation, hrows, hcolumns, hresponse,
      fun writable => hstatus (hwritable writable)⟩

/-- A table that a statement adds to the built-in seed, under two other spellings. -/
theorem browsing_agrees_of_created :
    Seed.server.Coherent ∧ Seed.server.EveryColumn Column.IsNamed ∧ IsName "Demo_DB" ∧
      IsName "GRÖSSE" ∧
      (let store := (Store.ofSeed Seed.server).afterAll
        [.statement (.named "demo_db") "CREATE TABLE Größe (id int, cm int)",
          .statement (.named "demo_db") "INSERT INTO größe VALUES (1, 180)"]
      let rows : List Row := [[("id", .int 1), ("cm", .int 180)]]
      (store.server.execute (.named "Demo_DB") "SELECT * FROM GRÖSSE").1 =
          .ok (.rows ["id", "cm"] rows (some 1)) ∧
        ∃ key schema engine collation, schema.mapM Column.name = .ok ["id", "cm"] ∧
          serve store (lookAt ["databases", "Demo_DB", "tables", "GRÖSSE", "schema"]) =
            (written (described key schema 1 engine collation), store)) := by
  have coherent : Seed.server.Coherent := by decide +kernel
  have named : Seed.server.EveryColumn Column.IsNamed := by decide +kernel
  have isDatabase : IsName "Demo_DB" := by decide +kernel
  have isTable : IsName "GRÖSSE" := by decide +kernel
  refine ⟨coherent, named, isDatabase, isTable, ?_⟩
  intro store rows
  have hanswer : (store.server.execute (.named "Demo_DB") ("SELECT * FROM " ++ "GRÖSSE")).1 =
      .ok (.rows ["id", "cm"] rows (some 1)) := by
    decide +kernel
  obtain ⟨-, -, -, -, shown⟩ := browsing_agrees coherent named _ isDatabase isTable
  obtain ⟨columns, rows, total, key, schema, engine, collation, hrows, hcolumns, hresponse, -⟩ :=
    shown _ hanswer
  cases hrows
  exact ⟨hanswer, key, schema, engine, collation, hcolumns, hresponse⟩

end Http

end MockSql
