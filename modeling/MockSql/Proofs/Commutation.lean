/-
# Statements about different tables

What a statement about the content of a table answers depends on that table alone, and it changes
nothing else. So two such statements about different tables do the same in either order: each
answers what it would answer without the other, and the server is the same in the end.
-/

import Mathlib.Control.Monad.Basic
import MockSql.Proofs.Targets
import MockSql.Seed

namespace MockSql

section Places

variable {server : Server} {current : Current} {statement : Statement}
  {key stored key' stored' : String} {table : Table} {tables tables' : Database}

/-- Tables that stand in different places may be set in either order. -/
theorem Server.setTable_comm (hkey : server.get? key = some tables) (hstored : stored ∈ tables.keys)
    (hkey' : server.get? key' = some tables') (differ : (key, stored) ≠ (key', stored'))
    (table table' : Table) :
    (server.setTable key stored table).setTable key' stored' table' =
      (server.setTable key' stored' table').setTable key stored table := by
  rw [setTable_eq hkey, setTable_eq hkey']
  by_cases heq : key = key'
  · subst heq
    cases hkey.symm.trans hkey'
    have hne : stored ≠ stored' := fun h => differ (h ▸ rfl)
    rw [setTable_eq (Entries.get?_set_self _ _ _), setTable_eq (Entries.get?_set_self _ _ _),
      Entries.set_set, Entries.set_set, Entries.set_comm _ _ hne hstored]
  · rw [setTable_eq ((Entries.get?_set_of_ne _ _ (Ne.symm heq)).trans hkey'),
      setTable_eq ((Entries.get?_set_of_ne _ _ heq).trans hkey)]
    exact Entries.set_comm _ _ heq (Entries.mem_keys_of_mem (Entries.mem_of_get? hkey))

/-- The table that a statement is about stands among the tables of its database. -/
theorem Statement.Targets.place (targets : statement.Targets server current key stored table) :
    ∃ tables : Database, server.get? key = some tables ∧ stored ∈ tables.keys := by
  obtain ⟨given, name, tables, hcurrent, about, chosen, found⟩ := targets.found
  exact ⟨tables, (Entries.find?_eq_some chosen).2,
    Entries.mem_keys_of_mem (Entries.mem_of_find? found)⟩

/-- A statement is about the same table after another table was set. -/
theorem Statement.Targets.setTable (targets : statement.Targets server current key stored table)
    (hkey' : server.get? key' = some tables') (hstored' : stored' ∈ tables'.keys)
    (differ : (key, stored) ≠ (key', stored')) (table' : Table) :
    statement.Targets (server.setTable key' stored' table') current key stored table := by
  refine ⟨targets.isLocal, ?_⟩
  obtain ⟨given, name, tables, hcurrent, about, chosen, found⟩ := targets.found
  rw [Server.setTable_eq hkey']
  by_cases heq : key = key'
  · subst heq
    cases (Entries.find?_eq_some chosen).2.symm.trans hkey'
    have hne : stored ≠ stored' := fun h => differ (h ▸ rfl)
    exact ⟨given, name, _, hcurrent, about, Entries.find?_set _ chosen,
      Entries.find?_set_of_ne _ hne hstored' found⟩
  · have hmem : key' ∈ server.keys := Entries.mem_keys_of_mem (Entries.mem_of_get? hkey')
    exact ⟨given, name, tables, hcurrent, about, Entries.find?_set_of_ne _ heq hmem chosen, found⟩

/-- So it is after another statement, successful or not, about another table. -/
theorem Statement.Targets.settleTable (targets : statement.Targets server current key stored table)
    (hkey' : server.get? key' = some tables') (hstored' : stored' ∈ tables'.keys)
    (differ : (key, stored) ≠ (key', stored')) (result : Except Fault (Answer × Table)) :
    statement.Targets (server.settleTable key' stored' result).2 current key stored table := by
  cases result with
  | error fault => exact targets
  | ok performed => exact targets.setTable hkey' hstored' differ performed.2

end Places

namespace Server

variable {server : Server}

/-- The outcome of a statement about the content of a table does not depend on where it stands. -/
theorem settleTable_outcome (server other : Server) (key stored : String)
    (result : Except Fault (Answer × Table)) :
    (server.settleTable key stored result).1 = (other.settleTable key stored result).1 := by
  cases result <;> rfl

/-- Statements about the content of different tables, in one database or in two, do the same in
either order: each has the outcome that it has without the other, whether it succeeds or fails, and
they leave the same server. -/
theorem execute_commute {current current' : Current} {query query' : String}
    {statement statement' : Statement} {key stored key' stored' : String} {table table' : Table}
    (hread : Statement.read query = .ok statement) (hread' : Statement.read query' = .ok statement')
    (targets : statement.Targets server current key stored table)
    (targets' : statement'.Targets server current' key' stored' table')
    (differ : (key, stored) ≠ (key', stored')) :
    let first := server.execute current query
    let second := server.execute current' query'
    (first.2.execute current' query').1 = second.1 ∧ (second.2.execute current query).1 = first.1 ∧
      (first.2.execute current' query').2 = (second.2.execute current query).2 := by
  intro first second
  obtain ⟨tables, hkey, hstored⟩ := targets.place
  obtain ⟨tables', hkey', hstored'⟩ := targets'.place
  have hfirst : first = server.settleTable key stored (table.perform statement) :=
    execute_of_targets hread targets
  have hsecond : second = server.settleTable key' stored' (table'.perform statement') :=
    execute_of_targets hread' targets'
  have hlater := execute_of_targets hread
    (targets.settleTable hkey' hstored' differ (table'.perform statement'))
  have hlater' := execute_of_targets hread'
    (targets'.settleTable hkey hstored (Ne.symm differ) (table.perform statement))
  rw [hfirst, hsecond, hlater, hlater']
  refine ⟨settleTable_outcome .., settleTable_outcome .., ?_⟩
  cases table.perform statement with
  | error fault => cases table'.perform statement' <;> rfl
  | ok performed =>
      cases table'.perform statement' with
      | error fault => rfl
      | ok performed' => exact setTable_comm hkey hstored hkey' differ performed.2 performed'.2

/-- An insertion and an update that finds no row, about two tables of one database that is given in
two spellings. -/
theorem execute_commute_of_builtin :
    let insertion := "INSERT INTO Users (name) VALUES ('Zoe')"
    let update := "UPDATE products SET stock = 0 WHERE id = 9"
    let inserted := Seed.server.execute (.named "DEMO_DB") insertion
    let updated := Seed.server.execute (.named "demo_db") update
    inserted.1 = .ok (.done "1 row inserted." (some 1)) ∧ updated.1 = .error .noMatchingRow ∧
      (inserted.2.execute (.named "demo_db") update).1 = updated.1 ∧
      (updated.2.execute (.named "DEMO_DB") insertion).1 = inserted.1 ∧
      (inserted.2.execute (.named "demo_db") update).2 =
        (updated.2.execute (.named "DEMO_DB") insertion).2 := by
  intro insertion update inserted updated
  have hinsertion : Statement.read insertion =
      .ok (.insert ⟨"Users", some ["name"], [.text "Zoe"]⟩) := by decide +kernel
  have hupdate : Statement.read update =
      .ok (.update ⟨"products", [("stock", .int 0)], "id", .int 9⟩) := by decide +kernel
  have hdatabase : Seed.server.resolve? "DEMO_DB" = some "demo_db" := by decide +kernel
  let tables : Database := [("users", Seed.users), ("products", Seed.products)]
  have htable : tables.resolve? "Users" = some "users" := by decide +kernel
  have targets : (Statement.insert ⟨"Users", some ["name"], [.text "Zoe"]⟩).Targets Seed.server
      (.named "DEMO_DB") "demo_db" "users" Seed.users :=
    ⟨rfl, "DEMO_DB", "Users", tables, rfl, rfl, by rw [Entries.find?, hdatabase]; rfl,
      by rw [Entries.find?, htable]; rfl⟩
  have targets' : (Statement.update ⟨"products", [("stock", .int 0)], "id", .int 9⟩).Targets
      Seed.server (.named "demo_db") "demo_db" "products" Seed.products :=
    ⟨rfl, "demo_db", "products", tables, rfl, rfl, rfl, rfl⟩
  exact ⟨by decide +kernel, by decide +kernel,
    execute_commute hinsertion hupdate targets targets' (by decide)⟩

end Server

end MockSql
