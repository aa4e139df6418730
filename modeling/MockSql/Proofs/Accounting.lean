/-
# Row accounting

The rows of a table are accounted for along every run in which the table stays: however insertions,
updates, deletions, changes of columns and failures are mixed, with whatever else happens to the
server in between, the table has as many rows as it had at the start and were inserted, less those
that deletions reported. The rows from the start keep their order, and those of the insertions stand
after them in the order of the insertions.
-/

import Mathlib.Control.Monad.Basic
import MockSql.Proofs.Frames
import MockSql.Proofs.Ledger

namespace MockSql

namespace Server

/-- The table that stands under its stored name in a database, which stands under its own. -/
def tableAt? (server : Server) (key stored : String) : Option Table :=
  (server.get? key).bind fun tables => tables.get? stored

/-- The stored names of a database and a table in it, where a current database finds the table. -/
def located? (server : Server) (current : Current) (name : String) : Option (String × String) :=
  match current.find server with
  | .ok (_, key, tables) => (tables.resolve? name).map (key, ·)
  | .error _ => none

/-- The statement that a text is, with what it answers, if it succeeds. -/
def answered? (server : Server) (current : Current) (query : String) :
    Option (Statement × Answer) := do
  let statement ← (Statement.read query).toOption
  let answer ← (server.execute current query).1.toOption
  return (statement, answer)

end Server

/-- Whether a statement names a table and finds it in a place. -/
def Statement.isAbout (statement : Statement) (server : Server) (current : Current)
    (key stored : String) : Bool :=
  statement.table?.bind (server.located? current) == some (key, stored)

/-- Whether a statement is for emptying, dropping or renaming the table in a place, or for dropping
its database. -/
def Statement.ends (statement : Statement) (server : Server) (current : Current)
    (key stored : String) : Bool :=
  match statement with
  | dropDatabase name => server.resolve? name == some key
  | _ => statement.endsTable && statement.isAbout server current key stored

namespace Store

/-- Whether an event ends the table in a place: it is emptied, dropped or renamed, its database is
dropped, or the store is reset. -/
def ends (store : Store) (key stored : String) : Event → Bool
  | .statement current query =>
    (store.server.answered? current query).any (·.1.ends store.server current key stored)
  | .createDatabase _ => false
  | .dropDatabase name => store.server.resolve? name == some key
  | .deleteTable database name =>
    store.server.located? (.named database) name == some (key, stored)
  | .renameTable database old new =>
    store.server.located? (.named database) old == some (key, stored) &&
      (store.server.inDatabase database (·.rename old new)).isOk
  | .reset => true

/-- Whether a run spares the table in a place. -/
def spares (store : Store) (key stored : String) : List Event → Bool
  | [] => true
  | event :: rest => !store.ends key stored event && (store.after event).spares key stored rest

/-- Enters an event into the ledger of the table in a place, if it is the execution of a statement
about that table and succeeds. -/
def enter (store : Store) (key stored : String) (ledger : Ledger) (event : Event) : Ledger :=
  match event with
  | .statement current query =>
    let about (answered : Statement × Answer) :=
      answered.1.isAbout store.server current key stored
    let entered := do
      let (statement, answer) ← (store.server.answered? current query).filter about
      let table ← store.server.tableAt? key stored
      let after ← (store.after event).server.tableAt? key stored
      return ledger.enter table after answer statement
    entered.getD ledger
  | _ => ledger

/-- Enters all events of a run into the ledger of the table in a place. -/
def enterAll (store : Store) (key stored : String) (ledger : Ledger) : List Event → Ledger
  | [] => ledger
  | event :: rest =>
    (store.after event).enterAll key stored (store.enter key stored ledger event) rest

end Store

namespace Database

variable {database after : Database} {statement : Statement} {answer : Answer}
  {given key name stored stored' new : String} {table renamed changed : Table}

/-- Renaming another table leaves a table where it stands. -/
theorem get?_renamed (free : database.isTaken stored' new = false) (hne : stored ≠ stored')
    (hget : database.get? stored = some table) :
    ((database.erase stored').set new renamed).get? stored = some table := by
  have hkept : (database.erase stored').get? stored = some table := by
    rw [Entries.get?_erase_of_ne _ hne, hget]
  have hnew : stored ≠ new := by
    rintro rfl
    exact not_mem_erase_of_free free (Entries.mem_keys_of_mem (Entries.mem_of_get? hkept))
  rw [Entries.get?_set_of_ne _ _ hnew, hkept]

/-- A statement that succeeds does to the table that it is about what it does to a table, and leaves
any other table; unless it drops or renames the table that it is about. -/
theorem run_get? (ran : database.run given key statement = .ok (answer, after))
    (hget : database.get? stored = some table)
    (spared : statement.endsTable = true → statement.table?.bind database.resolve? ≠ some stored) :
    ∃ edited, after.get? stored = some edited ∧
      (statement.table?.bind database.resolve? = some stored →
        table.perform statement = .ok (answer, edited)) ∧
      (statement.table?.bind database.resolve? ≠ some stored → edited = table) := by
  cases run_eq_ok ran with
  | showTables => exact ⟨table, hget, fun h => (nomatch h), fun _ => rfl⟩
  | createTable free =>
      refine ⟨table, ?_, fun h => (nomatch h), fun _ => rfl⟩
      rw [Entries.get?_set_of_ne _ _ (Entries.ne_of_free free hget), hget]
  | dropTable found =>
      have hother := spared rfl
      refine ⟨table, ?_, fun h => absurd h hother, fun _ => rfl⟩
      have hne : stored ≠ _ := fun heq => hother (heq ▸ found)
      rw [Entries.get?_erase_of_ne _ hne, hget]
  | renameTable found free =>
      have hother := spared rfl
      refine ⟨table, ?_, fun h => absurd h hother, fun _ => rfl⟩
      have hne : stored ≠ _ := fun heq => hother (heq ▸ (Entries.find?_eq_some found).1)
      exact get?_renamed free hne hget
  | @perform _ _ name stored' table' edited isLocal about found performed =>
      obtain ⟨hresolve, hget'⟩ := Entries.find?_eq_some found
      rw [about, Option.bind_some, hresolve]
      by_cases heq : stored' = stored
      · subst heq
        cases hget.symm.trans hget'
        exact ⟨edited, Entries.get?_set_self _ _ _, fun _ => performed, fun h => absurd rfl h⟩
      · refine ⟨table, ?_, fun h => absurd (Option.some.inj h) heq, fun _ => rfl⟩
        rw [Entries.get?_set_of_ne _ _ (Ne.symm heq), hget]

end Database

namespace Server

variable {server after : Server} {current : Current} {statement : Statement} {answer : Answer}
  {given key key' stored name : String} {tables : Database} {table : Table}

theorem tableAt?_eq (hget : server.get? key = some tables) :
    server.tableAt? key stored = tables.get? stored := by
  rw [tableAt?, hget, Option.bind_some]

theorem tableAt?_set_self : tableAt? (server.set key tables) key stored = tables.get? stored :=
  tableAt?_eq (Entries.get?_set_self _ _ _)

theorem tableAt?_set_of_ne (hne : key ≠ key') :
    tableAt? (server.set key' tables) key stored = server.tableAt? key stored := by
  rw [tableAt?, tableAt?, Entries.get?_set_of_ne _ _ hne]

theorem tableAt?_erase_of_ne (hne : key ≠ key') :
    tableAt? (server.erase key') key stored = server.tableAt? key stored := by
  rw [tableAt?, tableAt?, Entries.get?_erase_of_ne _ hne]

/-- A change of the tables of a database leaves a table in its place unless it changes that. -/
theorem tableAt?_set {changed : Database} (chosen : server.find? given = some (key', tables))
    (hat : server.tableAt? key stored = some table)
    (leaves : key' = key → tables.get? stored = some table → changed.get? stored = some table) :
    tableAt? (server.set key' changed) key stored = some table := by
  by_cases heq : key' = key
  · subst heq
    rw [tableAt?_eq (Entries.find?_eq_some chosen).2] at hat
    rw [tableAt?_set_self, leaves rfl hat]
  · rw [tableAt?_set_of_ne (Ne.symm heq), hat]

/-- A database that is created is another than that of a table. -/
theorem ne_of_free (free : server.resolve? name = none)
    (hat : server.tableAt? key stored = some table) : key ≠ name := by
  obtain ⟨tables, hget, -⟩ := Option.bind_eq_some_iff.mp hat
  exact Entries.ne_of_free free hget

theorem located?_named (found : server.find? given = some (key', tables)) :
    server.located? (.named given) name = (tables.resolve? name).map (key', ·) := by
  simp only [located?, Current.find, found]

theorem isAbout_iff (found : server.find? given = some (key', tables)) :
    statement.isAbout server (.named given) key stored = true ↔
      key' = key ∧ statement.table?.bind tables.resolve? = some stored := by
  rw [Statement.isAbout, beq_iff_eq]
  cases statement.table? with
  | none => simp
  | some name =>
      rw [Option.bind_some, Option.bind_some, located?_named found]
      cases tables.resolve? name <;> simp

/-- A statement that is about a table and does not end it is not for emptying, dropping or renaming
tables. -/
theorem endsTable_eq_false_of_about (spared : statement.ends server current key stored = false)
    (about : statement.isAbout server current key stored = true) : statement.endsTable = false := by
  cases statement with
  | dropDatabase name => rfl
  | _ =>
      simp only [Statement.ends, about, Bool.and_true] at spared
      exact spared

/-- A statement that succeeds does to the table that it is about what it does to a table, and leaves
any other table; unless it takes away the table or its database. -/
theorem run_tableAt? (ran : server.run current statement = .ok (answer, after))
    (hat : server.tableAt? key stored = some table)
    (spared : statement.ends server current key stored = false) :
    ∃ edited, after.tableAt? key stored = some edited ∧
      (statement.isAbout server current key stored = true →
        table.perform statement = .ok (answer, edited)) ∧
      (¬statement.isAbout server current key stored = true → edited = table) := by
  cases run_eq_ok ran with
  | showDatabases | use => exact ⟨table, hat, fun h => (nomatch h), fun _ => rfl⟩
  | createDatabase free =>
      refine ⟨table, ?_, fun h => (nomatch h), fun _ => rfl⟩
      rw [tableAt?_set_of_ne (ne_of_free free hat), hat]
  | @dropDatabase name key' found =>
      refine ⟨table, ?_, fun h => (nomatch h), fun _ => rfl⟩
      have hne : key ≠ key' := by
        rintro rfl
        simp [Statement.ends, found] at spared
      rw [tableAt?_erase_of_ne hne, hat]
  | @inside _ _ given key' tables changed needs chosen found inner =>
      subst chosen
      have hends : statement.endsTable = true →
          ¬statement.isAbout server (.named given) key stored = true := by
        intro hends about
        rw [endsTable_eq_false_of_about spared about] at hends
        cases hends
      rw [isAbout_iff found] at hends ⊢
      by_cases heq : key' = key
      · subst heq
        rw [tableAt?_eq (Entries.find?_eq_some found).2] at hat
        simp only [true_and] at hends ⊢
        rw [tableAt?_set_self]
        exact Database.run_get? inner hat hends
      · refine ⟨table, ?_, fun h => absurd h.1 heq, fun _ => rfl⟩
        rw [tableAt?_set_of_ne (Ne.symm heq), hat]

/-- A text that is a statement is answered if the statement succeeds. -/
theorem answered?_of_ok {query : String} (current : Current)
    (hread : Statement.read query = .ok statement) :
    server.answered? current query =
      (server.run current statement).toOption.map fun ran => (statement, ran.1) := by
  rw [answered?, hread, execute_of_ok current hread]
  cases server.run current statement <;> rfl

/-- What a text is answered is what its statement answers. -/
theorem run_of_answered? {query : String}
    (h : server.answered? current query = some (statement, answer)) :
    server.run current statement = .ok (answer, (server.execute current query).2) := by
  cases hread : Statement.read query with
  | error fault =>
      rw [answered?, hread] at h
      cases h
  | ok read =>
      rw [answered?_of_ok current hread] at h
      rw [execute_of_ok current hread]
      cases hrun : server.run current read with
      | error fault =>
          rw [hrun] at h
          cases h
      | ok ran =>
          rw [hrun] at h
          cases h
          exact hrun

/-- A text that is not answered changes nothing. -/
theorem execute_of_unanswered {query : String} (h : server.answered? current query = none) :
    (server.execute current query).2 = server := by
  cases hread : Statement.read query with
  | error fault => rw [execute_of_error current hread]
  | ok statement =>
      rw [answered?_of_ok current hread] at h
      rw [execute_of_ok current hread]
      cases hrun : server.run current statement with
      | error fault => rfl
      | ok ran =>
          rw [hrun] at h
          cases h

end Server

namespace Store

variable {store : Store} {key stored : String} {table : Table} {ledger : Ledger} {opened : Nat}

/-- A direct call leaves a table in its place unless it ends it. -/
theorem Effect.tableAt? {event : Event} {after : Server} (effect : store.Effect event after)
    (direct : event.isStatement = false) (hat : store.server.tableAt? key stored = some table)
    (spared : store.ends key stored event = false) : after.tableAt? key stored = some table := by
  cases effect with
  | statement => cases direct
  | failure => exact hat
  | createDatabase free => rw [Server.tableAt?_set_of_ne (Server.ne_of_free free hat), hat]
  | @dropDatabase name key' found =>
      have hne : key ≠ key' := by
        rintro rfl
        simp [ends, found] at spared
      rw [Server.tableAt?_erase_of_ne hne, hat]
  | @deleteTable database name key' stored' tables chosen found =>
      refine Server.tableAt?_set chosen hat fun heq hget => ?_
      have hne : stored ≠ stored' := by
        rintro rfl
        simp [ends, Server.located?_named chosen, found, heq] at spared
      rw [Entries.get?_erase_of_ne _ hne, hget]
  | @renameTable database old new key' stored' tables renamed chosen found free =>
      refine Server.tableAt?_set chosen hat fun heq hget => ?_
      have succeeds : (store.server.inDatabase database (·.rename old new)).isOk = true := by
        simp [Server.inDatabase, Server.database, chosen, Database.rename, found, free, bind_ok,
          Except.isOk, Except.toBool]
      have hne : stored ≠ stored' := by
        rintro rfl
        simp [ends, Server.located?_named chosen, (Entries.find?_eq_some found).1, heq,
          succeeds] at spared
      exact Database.get?_renamed free hne hget
  | reset => cases spared

/-- A text that spares a table leaves it in its place, and its ledger is right about what the text
makes of it. -/
theorem enter_statement_balances {current : Current} {query : String}
    (hat : store.server.tableAt? key stored = some table) (balances : ledger.Balances opened table)
    (spared : store.ends key stored (.statement current query) = false) :
    ∃ edited, (store.after (.statement current query)).server.tableAt? key stored = some edited ∧
      (store.enter key stored ledger (.statement current query)).Balances opened edited := by
  have hserver : (store.after (.statement current query)).server =
      (store.server.execute current query).2 := rfl
  cases hanswered : store.server.answered? current query with
  | none =>
      refine ⟨table, ?_, ?_⟩
      · rw [hserver, Server.execute_of_unanswered hanswered, hat]
      · simpa [enter, hanswered] using balances
  | some answered =>
      obtain ⟨statement, answer⟩ := answered
      have hspared : statement.ends store.server current key stored = false := by
        simpa [ends, hanswered] using spared
      obtain ⟨edited, hafter, habout, hother⟩ :=
        Server.run_tableAt? (Server.run_of_answered? hanswered) hat hspared
      refine ⟨edited, hafter, ?_⟩
      by_cases about : statement.isAbout store.server current key stored = true
      · have hends := Server.endsTable_eq_false_of_about hspared about
        simpa [enter, hanswered, Option.filter, about, hat, hserver, hafter] using
          balances.enter hends (habout about)
      · cases hother about
        simpa [enter, hanswered, Option.filter, about] using balances

/-- An event that spares a table leaves it in its place, and its ledger is right about what the
event makes of it. -/
theorem enter_balances (event : Event) (hat : store.server.tableAt? key stored = some table)
    (balances : ledger.Balances opened table) (spared : store.ends key stored event = false) :
    ∃ edited, (store.after event).server.tableAt? key stored = some edited ∧
      (store.enter key stored ledger event).Balances opened edited := by
  cases event with
  | statement current query => exact enter_statement_balances hat balances spared
  | _ => exact ⟨table, (store.after_effect _).tableAt? rfl hat spared, balances⟩

/-- A run that spares a table leaves it in its place, and its ledger is right about what the run
makes of it. -/
theorem enterAll_balances {events : List Event}
    (hat : store.server.tableAt? key stored = some table)
    (balances : ledger.Balances opened table) (spared : store.spares key stored events = true) :
    ∃ final, (store.afterAll events).server.tableAt? key stored = some final ∧
      (store.enterAll key stored ledger events).Balances opened final := by
  induction events generalizing store table ledger with
  | nil => exact ⟨table, hat, balances⟩
  | cons event rest ih =>
      simp only [spares, Bool.and_eq_true, Bool.not_eq_true'] at spared
      obtain ⟨edited, hedited, hbalances⟩ := enter_balances event hat balances spared.1
      exact ih hedited hbalances spared.2

/-- A table that stays along a run has as many rows in the end as it had at the start and were
inserted, less those that deletions reported. The rows that are left from the start stand in their
order before those that were inserted, which stand in the order of the insertions. -/
theorem rows_accounted {events : List Event}
    (start : store.server.tableAt? key stored = some table)
    (spared : store.spares key stored events = true) :
    let ledger := store.enterAll key stored (.opening table) events
    ∃ final, (store.afterAll events).server.tableAt? key stored = some final ∧
      final.rows.length + ledger.deletions = table.rows.length + ledger.insertions ∧
      final.rows = ledger.rows.map Prod.snd ∧
      (ledger.rows.map Prod.fst).Sublist
        ((List.range table.rows.length).map .start ++
          (List.range ledger.insertions).map .inserted) := by
  intro ledger
  obtain ⟨final, hfinal, balances⟩ :=
    enterAll_balances start (Ledger.opening_balances table) spared
  exact ⟨final, hfinal, balances.count, balances.rows.symm, balances.order⟩

/-- A built-in table that loses its second row and gets two others, between other statements. -/
theorem rows_accounted_of_mixed_run :
    let store := Store.ofSeed Seed.server
    let events := [
      "INSERT INTO users (name) VALUES ('Ann')", "DELETE FROM users WHERE id IN (2, 9)",
      "UPDATE users SET name = 'Bob' WHERE id = 3", "INSERT INTO users VALUES",
      "DROP TABLE products", "ALTER TABLE users DROP COLUMN email",
      "INSERT INTO USERS (name) VALUES ('Bea')"].map (Event.statement (.named "demo_db"))
    let ledger := store.enterAll "demo_db" "users" (.opening Seed.users) events
    store.server.tableAt? "demo_db" "users" = some Seed.users ∧
      store.spares "demo_db" "users" events = true ∧
      ledger.insertions = 2 ∧ ledger.deletions = 1 ∧
      ledger.rows.map Prod.fst =
        [.start 0, .start 2, .start 3, .start 4, .inserted 0, .inserted 1] ∧
      ∃ final, (store.afterAll events).server.tableAt? "demo_db" "users" = some final ∧
        final.rows.length = 6 := by
  intro store events ledger
  have start : store.server.tableAt? "demo_db" "users" = some Seed.users := rfl
  have hrun : store.spares "demo_db" "users" events = true ∧ ledger.insertions = 2 ∧
      ledger.deletions = 1 ∧ ledger.rows.map Prod.fst =
        [.start 0, .start 2, .start 3, .start 4, .inserted 0, .inserted 1] := by decide +kernel
  obtain ⟨spared, hinsertions, hdeletions, horigins⟩ := hrun
  obtain ⟨final, hfinal, hcount, -, -⟩ := rows_accounted start spared
  refine ⟨start, spared, hinsertions, hdeletions, horigins, final, hfinal, ?_⟩
  have hopened : Seed.users.rows.length = 5 := rfl
  change final.rows.length + ledger.deletions = _ + ledger.insertions at hcount
  omega

end Store

end MockSql
