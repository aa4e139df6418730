/-
# Steps and runs

Whatever a statement or a direct call does to a server is one of a few steps: nothing, an added or
removed database, or a step of one database, which adds, removes, renames or edits one table. A
property that each step keeps holds along every run, with resets back to the seed in between. The
steps are read off the code once, here; invariants are proved about the steps.
-/

import MockSql.Proofs.Effects
import MockSql.Proofs.Readings

namespace MockSql

/-- What a statement can make of one table that keeps its name. -/
inductive Table.Edit (table : Table) : Table → Prop
  | truncate : Edit table (table.withRows [])
  | alter {name : String} {change : ColumnChange} {answer : Answer} {after : Table}
      (readable : (Statement.alterTable name change).Readable)
      (succeeds : table.alter change = .ok (answer, after)) : Edit table after
  | insert {insertion : Insertion} {answer : Answer} {after : Table}
      (readable : (Statement.insert insertion).Readable)
      (succeeds : table.insert insertion = .ok (answer, after)) : Edit table after
  | update {update : Update} {answer : Answer} {after : Table}
      (readable : (Statement.update update).Readable)
      (succeeds : table.update update = .ok (answer, after)) : Edit table after
  | delete {deletion : Deletion} {answer : Answer} {after : Table}
      (readable : (Statement.delete deletion).Readable)
      (succeeds : table.delete deletion = .ok (answer, after)) : Edit table after

/-- What a statement can make of one database. -/
inductive Database.Step (database : Database) : Database → Prop
  | keep : Step database database
  | create {name : String} {columns : List ColumnDefinition}
      (readable : (Statement.createTable name columns).Readable)
      (free : database.resolve? name = none) :
      Step database (database.set name (Table.ofDefinitions name columns))
  | drop {name key : String} (found : database.resolve? name = some key) :
      Step database (database.erase key)
  | rename {old key new : String} {table : Table} (found : database.find? old = some (key, table))
      (free : database.isTaken key new = false) :
      Step database ((database.erase key).set new { table with name := new })
  | edit {name key : String} {table after : Table}
      (found : database.find? name = some (key, table)) (edited : table.Edit after) :
      Step database (database.set key after)

/-- What a statement can make of a server. -/
inductive Server.Step (server : Server) : Server → Prop
  | keep : Step server server
  | create (name : String) (free : server.resolve? name = none) :
      Step server (server.set name [])
  | drop {name key : String} (found : server.resolve? name = some key) :
      Step server (server.erase key)
  | inside {name key : String} {tables after : Database}
      (found : server.find? name = some (key, tables)) (step : tables.Step after) :
      Step server (server.set key after)

/-- What a statement makes of one table is the table itself or an edit of it. -/
theorem Table.perform_edit {table edited : Table} {statement : Statement} {answer : Answer}
    (readable : statement.Readable) (h : table.perform statement = .ok (answer, edited)) :
    edited = table ∨ table.Edit edited := by
  cases statement with
  | truncateTable name =>
      cases h
      exact .inr .truncate
  | select selection =>
      obtain ⟨selected, -, h⟩ := map_eq_ok_iff.mp h
      cases h
      exact .inl rfl
  | alterTable name change => exact .inr (.alter readable h)
  | insert insertion => exact .inr (.insert readable h)
  | update changes => exact .inr (.update readable h)
  | delete deletion => exact .inr (.delete readable h)
  | showDatabases | createDatabase | dropDatabase | use | showTables => cases h
  | createTable | dropTable | renameTable => cases h

namespace Database

/-- A statement that succeeds in a database makes a step of it. -/
theorem run_step {database after : Database} {given key : String} {statement : Statement}
    {answer : Answer} (readable : statement.Readable)
    (h : database.run given key statement = .ok (answer, after)) :
    database.Step after := by
  cases run_eq_ok h with
  | showTables => exact .keep
  | createTable free => exact .create readable free
  | dropTable found => exact .drop found
  | renameTable found free => exact .rename found free
  | perform isLocal about found performed =>
      rcases Table.perform_edit readable performed with rfl | edited
      · rw [Entries.set_get?_self (Entries.find?_eq_some found).2]
        exact .keep
      · exact .edit found edited

end Database

namespace Server

/-- A statement that succeeds makes a step of the server. -/
theorem run_step {server after : Server} {current : Current} {statement : Statement}
    {answer : Answer} (readable : statement.Readable)
    (h : server.run current statement = .ok (answer, after)) :
    server.Step after := by
  cases run_eq_ok h with
  | showDatabases => exact .keep
  | createDatabase free => exact .create _ free
  | dropDatabase found => exact .drop found
  | use found => exact .keep
  | inside needs chosen found ran => exact .inside found (Database.run_step readable ran)

/-- Executing a text makes a step of the server, be it a statement or not. -/
theorem execute_step (server : Server) (current : Current) (query : String) :
    server.Step (server.execute current query).2 := by
  unfold execute
  split
  next answer changed hrun =>
    obtain ⟨statement, hread, hrun⟩ := bind_eq_ok_iff.mp hrun
    exact run_step ⟨query, hread⟩ hrun
  next => exact .keep

end Server

/-- What can happen to a store: a text is executed in some current database, a client of the store
changes a database or a table directly, or the store is reset. -/
inductive Event where
  | statement (current : Current) (query : String)
  | createDatabase (name : String)
  | dropDatabase (name : String)
  | deleteTable (database name : String)
  | renameTable (database old new : String)
  | reset

/-- Whether an event is the execution of a text. -/
def Event.isStatement : Event → Bool
  | statement _ _ => true
  | _ => false

namespace Store

/-- The store after a direct call, which changes nothing if it fails. -/
def afterCall (store : Store) : Except Fault Server → Store
  | .ok server => { store with server }
  | .error _ => store

/-- The store after an event. -/
def after (store : Store) : Event → Store
  | .statement current query => { store with server := (store.server.execute current query).2 }
  | .createDatabase name => store.afterCall (store.server.createDatabase name)
  | .dropDatabase name => store.afterCall (store.server.dropDatabase name)
  | .deleteTable database name => store.afterCall (store.server.inDatabase database (·.drop name))
  | .renameTable database old new =>
    store.afterCall (store.server.inDatabase database (·.rename old new))
  | .reset => store.reset

/-- The store after several events, one after the other. -/
def afterAll (store : Store) (events : List Event) : Store :=
  events.foldl after store

/-- What an event leaves of a server: what executing its text leaves, or what a direct call makes of
it, which is nothing new if the call fails. -/
inductive Effect (store : Store) : Event → Server → Prop
  | statement {current : Current} {query : String} :
      Effect store (.statement current query) (store.server.execute current query).2
  | failure {event : Event} (direct : event.isStatement = false) : Effect store event store.server
  | createDatabase {name : String} (free : store.server.resolve? name = none) :
      Effect store (.createDatabase name) (store.server.set name [])
  | dropDatabase {name key : String} (found : store.server.resolve? name = some key) :
      Effect store (.dropDatabase name) (store.server.erase key)
  | deleteTable {database name key stored : String} {tables : Database}
      (chosen : store.server.find? database = some (key, tables))
      (found : tables.resolve? name = some stored) :
      Effect store (.deleteTable database name) (store.server.set key (tables.erase stored))
  | renameTable {database old new key stored : String} {tables : Database} {table : Table}
      (chosen : store.server.find? database = some (key, tables))
      (found : tables.find? old = some (stored, table))
      (free : tables.isTaken stored new = false) :
      Effect store (.renameTable database old new)
        (store.server.set key ((tables.erase stored).set new { table with name := new }))
  | reset : Effect store .reset store.seed

theorem after_effect (store : Store) (event : Event) :
    store.Effect event (store.after event).server := by
  have hcall : ∀ {event : Event} {result : Except Fault Server}, event.isStatement = false →
      (∀ changed, result = .ok changed → store.Effect event changed) →
      store.Effect event (store.afterCall result).server := by
    intro event result direct heffect
    cases result with
    | ok changed => exact heffect changed rfl
    | error fault => exact .failure direct
  cases event with
  | statement current query => exact .statement
  | createDatabase name =>
      refine hcall rfl fun changed h => ?_
      obtain ⟨free, rfl⟩ := Server.createDatabase_eq_ok h
      exact .createDatabase free
  | dropDatabase name =>
      refine hcall rfl fun changed h => ?_
      obtain ⟨key, found, rfl⟩ := Server.dropDatabase_eq_ok h
      exact .dropDatabase found
  | deleteTable database name =>
      refine hcall rfl fun changed h => ?_
      obtain ⟨key, tables, fewer, chosen, hdrop, rfl⟩ := Server.inDatabase_eq_ok h
      obtain ⟨stored, found, rfl⟩ := Database.drop_eq_ok hdrop
      exact .deleteTable chosen found
  | renameTable database old new =>
      refine hcall rfl fun changed h => ?_
      obtain ⟨key, tables, renamed, chosen, hrename, rfl⟩ := Server.inDatabase_eq_ok h
      obtain ⟨stored, table, found, free, rfl⟩ := Database.rename_eq_ok hrename
      exact .renameTable chosen found free
  | reset => exact .reset

/-- An event steps the server or puts the seed back. -/
theorem Effect.step {store : Store} {event : Event} {after : Server}
    (effect : store.Effect event after) : store.server.Step after ∨ after = store.seed := by
  cases effect with
  | statement => exact .inl (Server.execute_step _ _ _)
  | failure direct => exact .inl .keep
  | createDatabase free => exact .inl (.create _ free)
  | dropDatabase found => exact .inl (.drop found)
  | deleteTable chosen found => exact .inl (.inside chosen (.drop found))
  | renameTable chosen found free => exact .inl (.inside chosen (.rename found free))
  | reset => exact .inr rfl

/-- An event keeps the seed. -/
theorem seed_after (store : Store) (event : Event) : (store.after event).seed = store.seed := by
  have hcall : ∀ result : Except Fault Server, (store.afterCall result).seed = store.seed := by
    intro result
    cases result <;> rfl
  cases event with
  | statement | reset => rfl
  | createDatabase | dropDatabase | deleteTable | renameTable => exact hcall _

theorem seed_afterAll (store : Store) (events : List Event) :
    (store.afterAll events).seed = store.seed := by
  induction events generalizing store with
  | nil => rfl
  | cons event rest ih => exact (ih (store.after event)).trans (store.seed_after event)

/-- A property of the seed and of the server that every step keeps holds after every run. -/
theorem afterAll_induction {holds : Server → Prop}
    (keeps : ∀ {server changed : Server}, holds server → server.Step changed → holds changed)
    {store : Store} (hseed : holds store.seed) (hserver : holds store.server)
    (events : List Event) : holds (store.afterAll events).server := by
  induction events generalizing store with
  | nil => exact hserver
  | cons event rest ih =>
      refine @ih (store.after event) (store.seed_after event ▸ hseed) ?_
      rcases (store.after_effect event).step with hstep | hreset
      · exact keeps hserver hstep
      · exact hreset ▸ hseed

/-- A property that an event keeps unless it breaks it holds all along a run if no event of the run
breaks it, and only then. -/
theorem along_run_iff {holds : Store → Prop} {breaks : Store → Event → Prop}
    (keeps : ∀ {store} event, holds store → (holds (store.after event) ↔ ¬breaks store event))
    {store : Store} (hstart : holds store) (events : List Event) :
    (∀ done, done <+: events → holds (store.afterAll done)) ↔
      ∀ done event, done ++ [event] <+: events → ¬breaks (store.afterAll done) event := by
  constructor
  · intro hall done event hdone
    have hbefore := hall done ((List.prefix_append done [event]).trans hdone)
    have hafter := hall (done ++ [event]) hdone
    rw [afterAll, List.foldl_append] at hafter
    exact (keeps event hbefore).mp hafter
  · intro hnone done hdone
    induction done generalizing store events with
    | nil => exact hstart
    | cons event rest ih =>
        obtain ⟨later, rfl⟩ := hdone
        have hafter := (keeps event hstart).mpr (hnone [] event ⟨rest ++ later, rfl⟩)
        refine ih hafter (rest ++ later) ?_ (List.prefix_append rest later)
        intro done other hother
        exact hnone (event :: done) other (List.cons_prefix_cons.mpr ⟨rfl, hother⟩)

end Store

end MockSql
