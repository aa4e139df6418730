/-
# The rows of a server

Rows are made by the statements about the content of a table. Whatever else happens to a server
leaves its rows or takes some of them away: a table that is created has none, and one that is
renamed keeps its own.
-/

import MockSql.Proofs.Targets

namespace MockSql

namespace Entries

variable {α β : Type} {content : α → List β} {entries : Entries α} {name : String} {value : α}

/-- What all entries hold, in their order. -/
def gather (content : α → List β) (entries : Entries α) : List β :=
  entries.flatMap fun entry => content entry.2

theorem mem_gather {item : β} :
    item ∈ entries.gather content ↔ ∃ entry ∈ entries, item ∈ content entry.2 :=
  List.mem_flatMap

/-- Setting an entry adds what it holds and nothing else. -/
theorem gather_set_subset {items : List β} (hvalue : content value ⊆ items)
    (hentries : entries.gather content ⊆ items) :
    (entries.set name value).gather content ⊆ items := by
  intro item hitem
  obtain ⟨entry, hentry, hcontent⟩ := mem_gather.mp hitem
  rcases mem_of_mem_set hentry with rfl | hstored
  · exact hvalue hcontent
  · exact hentries (mem_gather.mpr ⟨entry, hstored, hcontent⟩)

theorem gather_erase_subset : (entries.erase name).gather content ⊆ entries.gather content := by
  intro item hitem
  obtain ⟨entry, hentry, hcontent⟩ := mem_gather.mp hitem
  exact mem_gather.mpr ⟨entry, mem_of_mem_erase hentry, hcontent⟩

theorem subset_gather (hget : entries.get? name = some value) :
    content value ⊆ entries.gather content := by
  intro item hitem
  exact mem_gather.mpr ⟨(name, value), mem_of_get? hget, hitem⟩

theorem subset_gather_set : content value ⊆ (entries.set name value).gather content :=
  subset_gather (get?_set_self entries name value)

end Entries

/-- The rows of all tables of a database. -/
def Database.rows (database : Database) : List Row :=
  database.gather Table.rows

/-- The rows of all tables of a server. -/
def Server.rows (server : Server) : List Row :=
  server.gather Database.rows

/-- The rows of the table that a statement is about are rows of the server. -/
theorem Statement.Targets.rows {statement : Statement} {server : Server} {current : Current}
    {key stored : String} {table : Table}
    (targets : statement.Targets server current key stored table) :
    ∃ tables, server.get? key = some tables ∧ table.rows ⊆ server.rows := by
  obtain ⟨given, name, tables, -, -, chosen, found⟩ := targets.found
  have hget : server.get? key = some tables := (Entries.find?_eq_some chosen).2
  have hstored : table.rows ⊆ Database.rows tables :=
    Entries.subset_gather (Entries.find?_eq_some found).2
  exact ⟨tables, hget, List.Subset.trans hstored (Entries.subset_gather hget)⟩

namespace Database

variable {database after : Database} {name : String}

/-- A table that is renamed keeps its rows. -/
theorem renamed_rows_subset {new stored : String} {table : Table}
    (found : database.find? name = some (stored, table)) :
    Database.rows ((database.erase stored).set new { table with name := new }) ⊆ database.rows := by
  have hrows : table.rows ⊆ database.rows := Entries.subset_gather (Entries.find?_eq_some found).2
  exact Entries.gather_set_subset hrows Entries.gather_erase_subset

/-- Only a statement about the content of a table makes rows in a database. -/
theorem run_rows_subset {given key : String} {statement : Statement} {answer : Answer}
    (notLocal : statement.isLocal = false)
    (h : database.run given key statement = .ok (answer, after)) : after.rows ⊆ database.rows := by
  cases run_eq_ok h with
  | showTables => exact List.Subset.refl _
  | createTable free =>
      exact Entries.gather_set_subset (List.nil_subset _) (List.Subset.refl _)
  | dropTable found => exact Entries.gather_erase_subset
  | renameTable found free => exact renamed_rows_subset found
  | perform isLocal about found performed => cases notLocal.symm.trans isLocal

end Database

namespace Server

variable {server after : Server} {current : Current}

/-- A database that is created has no rows. -/
theorem created_rows_subset {name : String} :
    Server.rows (server.set name []) ⊆ server.rows :=
  Entries.gather_set_subset (List.nil_subset _) (List.Subset.refl _)

/-- The tables of a database are put back with no more rows than they had. -/
theorem set_rows_subset {key : String} {tables changed : Database}
    (hget : server.get? key = some tables) (fewer : changed.rows ⊆ tables.rows) :
    Server.rows (server.set key changed) ⊆ server.rows :=
  Entries.gather_set_subset (List.Subset.trans fewer (Entries.subset_gather hget))
    (List.Subset.refl _)

/-- Only a statement about the content of a table makes rows. -/
theorem run_rows_subset {statement : Statement} {answer : Answer}
    (notLocal : statement.isLocal = false)
    (h : server.run current statement = .ok (answer, after)) : after.rows ⊆ server.rows := by
  cases run_eq_ok h with
  | showDatabases | use => exact List.Subset.refl _
  | createDatabase free => exact created_rows_subset
  | dropDatabase found => exact Entries.gather_erase_subset
  | inside needs chosen found ran =>
      exact set_rows_subset (Entries.find?_eq_some found).2 (Database.run_rows_subset notLocal ran)

/-- A text makes no rows unless it is a statement about the content of a table that is there. -/
theorem execute_rows_subset {query : String}
    (untargeted : ∀ {statement}, Statement.read query = .ok statement →
      ¬∃ key stored table, statement.Targets server current key stored table) :
    Server.rows (server.execute current query).2 ⊆ server.rows := by
  cases hread : Statement.read query with
  | error fault =>
      rw [execute_of_error current hread]
      exact List.Subset.refl _
  | ok statement =>
      rw [execute_of_ok current hread]
      cases hrun : server.run current statement with
      | error fault => exact List.Subset.refl _
      | ok ran =>
          have notLocal : statement.isLocal = false :=
            Bool.eq_false_iff.mpr fun isLocal => untargeted hread (exists_targets isLocal hrun)
          exact run_rows_subset notLocal hrun

end Server

/-- A direct call makes no rows, and a reset brings back those of the seed. -/
theorem Store.Effect.rows_subset {store : Store} {event : Event} {after : Server}
    (effect : store.Effect event after) (direct : event.isStatement = false) :
    after.rows ⊆ store.seed.rows ++ store.server.rows := by
  have hserver : ∀ {rows : List Row}, rows ⊆ store.server.rows →
      rows ⊆ store.seed.rows ++ store.server.rows :=
    fun h => List.subset_append_of_subset_right _ h
  cases effect with
  | statement => cases direct
  | failure => exact List.subset_append_right _ _
  | createDatabase free => exact hserver Server.created_rows_subset
  | dropDatabase found => exact hserver Entries.gather_erase_subset
  | deleteTable chosen found =>
      exact hserver (Server.set_rows_subset (Entries.find?_eq_some chosen).2
        Entries.gather_erase_subset)
  | renameTable chosen found free =>
      exact hserver (Server.set_rows_subset (Entries.find?_eq_some chosen).2
        (Database.renamed_rows_subset found))
  | reset => exact List.subset_append_left _ _

end MockSql
