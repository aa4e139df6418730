/-
# Renaming a table

A table is renamed if its name resolves and the new name either resolves to nothing or is another
spelling of the table's own. The table is taken away and comes last under the new name with the same
content; no other table changes. Renaming it back puts every table under its old name again, and only
the order of the tables can differ from before.
-/

import MockSql.Proofs.Coherence
import MockSql.Proofs.Targets
import MockSql.Seed

namespace MockSql

namespace Database

variable {database after : Database} {old new key : String} {table : Table}

/-- A name is free for a table if no table has it or the table itself has it in another spelling. -/
theorem isTaken_eq_false_iff :
    database.isTaken key new = false ↔
      database.resolve? new = none ∨ database.resolve? new = some key ∧ new ≠ key := by
  unfold isTaken
  cases database.resolve? new with
  | none => simp
  | some resolved => simp

/-- A table that is there takes a name that is free for it. -/
theorem rename_of_free (found : database.find? old = some (key, table))
    (free : database.isTaken key new = false) :
    database.rename old new = .ok ((database.erase key).set new { table with name := new }) := by
  rw [rename, found]
  simp only [free]
  rfl

/-- A table is renamed exactly if there is one and the new name is free for it. -/
theorem rename_succeeds_iff :
    (∃ after, database.rename old new = .ok after) ↔
      ∃ key, database.resolve? old = some key ∧
        (database.resolve? new = none ∨ database.resolve? new = some key ∧ new ≠ key) := by
  constructor
  · rintro ⟨after, h⟩
    obtain ⟨key, table, found, free, -⟩ := rename_eq_ok h
    exact ⟨key, (Entries.find?_eq_some found).1, isTaken_eq_false_iff.mp free⟩
  · rintro ⟨key, hresolve, hfree⟩
    obtain ⟨table, found⟩ := Entries.exists_find? hresolve
    exact ⟨_, rename_of_free found (isTaken_eq_false_iff.mpr hfree)⟩

/-- After a renaming the new name leads to the table, and the old one does only if it is another
spelling of the new one. -/
theorem find?_renamed (distinct : DistinctNames database.keys) (renamed : Table)
    (found : database.find? old = some (key, table)) (free : database.isTaken key new = false) :
    ((database.erase key).set new renamed).find? new = some (new, renamed) ∧
      ((database.erase key).set new renamed).find? old =
        if sameName old new then some (new, renamed) else none := by
  have hfree := renamed_free distinct found free
  have hadded {name : String} (same : sameName new name = true) :
      ((database.erase key).set new renamed).find? name = some (new, renamed) := by
    rw [Entries.find?, Entries.resolve?_set_of_free renamed hfree same, Option.bind_some,
      Entries.get?_set_self, Option.map_some]
  refine ⟨hadded (sameName_iff.mpr rfl), ?_⟩
  by_cases same : sameName old new = true
  · rw [if_pos same]
    exact hadded (sameName_iff.mpr (sameName_iff.mp same).symm)
  · have hold : sameName key old = true :=
      sameName_iff.mpr (Entries.resolve?_eq_some (Entries.find?_eq_some found).1).2
    have hgone : (database.erase key).resolve? old = none :=
      Entries.resolve?_erase_of_same distinct
        (Entries.mem_keys_of_mem (Entries.mem_of_find? found)) hold
    have differ : ¬ sameName new old = true := fun hsame =>
      same (sameName_iff.mpr (sameName_iff.mp hsame).symm)
    rw [if_neg same, Entries.find?, Entries.resolve?_set_of_not_same renamed hgone differ,
      Option.bind_none]

/-- The old name is free again for a table that was renamed. -/
theorem isTaken_renamed (distinct : DistinctNames database.keys) (renamed : Table)
    (found : database.find? old = some (key, table)) (free : database.isTaken key new = false) :
    isTaken ((database.erase key).set new renamed) new key = false := by
  have hkey : database.resolve? key = some key :=
    Entries.resolve?_of_mem (Entries.mem_keys_of_mem (Entries.mem_of_find? found))
  have hself : database.find? key = some (key, table) := by
    rw [Entries.find?, hkey, Option.bind_some, (Entries.find?_eq_some found).2, Option.map_some]
  have hne : key ≠ new := by
    rintro rfl
    rcases isTaken_eq_false_iff.mp free with hnone | ⟨-, hne⟩
    · rw [hnone] at hkey
      cases hkey
    · exact hne rfl
  rw [isTaken_eq_false_iff]
  have hfind := (find?_renamed distinct renamed hself free).2
  cases hresolve : ((database.erase key).set new renamed).resolve? key with
  | none => exact .inl rfl
  | some other =>
      obtain ⟨stored, hstored⟩ := Entries.exists_find? hresolve
      rw [hstored] at hfind
      split at hfind
      next =>
        cases hfind
        exact .inr ⟨rfl, hne⟩
      next => cases hfind

/-- The table that is put back under its old name comes last, and all tables are what they were. -/
theorem restored (unique : database.keys.Nodup) (hget : database.get? key = some table) :
    ((database.erase key).set key table).Perm database ∧
      ∀ name, ((database.erase key).set key table).get? name = database.get? name := by
  have hgone : key ∉ (database.erase key).keys := by
    rw [Entries.keys_erase]
    simp
  constructor
  · rw [Entries.set_of_not_mem table hgone]
    obtain ⟨front, back, hsplit, -⟩ := Entries.exists_split hget
    subst hsplit
    rw [Entries.erase_split unique, List.append_assoc]
    exact List.perm_append_comm.append_left front
  · intro name
    by_cases hname : name = key
    · rw [hname, Entries.get?_set_self, hget]
    · rw [Entries.get?_set_of_ne _ _ hname, Entries.get?_erase_of_ne _ hname]

end Database

namespace Server

variable {server : Server} {given place : String} {database : Database}

/-- What a call changes in the database that it names, it changes in the server. -/
theorem inDatabase_of_find? (change : Database → Except Fault Database)
    (chosen : server.find? given = some (place, database)) :
    server.inDatabase given change = (change database).map (server.set place) := by
  simp only [inDatabase, Server.database, chosen, bind_ok]
  cases change database <;> rfl

/-- A statement renames a table in the current database. -/
theorem run_renameTable (old new : String)
    (chosen : server.find? given = some (place, database)) :
    server.run (.named given) (.renameTable old new) =
      (database.rename old new).map fun after =>
        (.done s!"Table '{old}' renamed to '{new}'." none, server.set place after) := by
  rw [run_table rfl, Current.find, chosen]
  simp only [bind_ok, Database.run]
  cases database.rename old new <;> rfl

end Server

/-- A renaming succeeds exactly if the table is there and no other table has the new name, nor the
table itself exactly. The table then comes last with the new name and the same content, the names lead
to it that are spellings of the new name, and renaming it to its old stored name gives every table
back. In a server the renaming is done in the database that is named, by a call or by a statement. -/
theorem Database.renaming_moves_one_table {database : Database} (distinct : DistinctNames database.keys)
    (named : ∀ entry ∈ database, entry.2.name = entry.1) (old new : String) :
    ((∃ after, database.rename old new = .ok after) ↔
      ∃ key, database.resolve? old = some key ∧
        (database.resolve? new = none ∨ database.resolve? new = some key ∧ new ≠ key)) ∧
    (∀ after, database.rename old new = .ok after →
      ∃ key table, database.find? old = some (key, table) ∧
        let moved := { table with name := new }
        after = database.erase key ++ [(new, moved)] ∧
        after.keys = database.keys.filter (· != key) ++ [new] ∧
        after.find? new = some (new, moved) ∧
        after.find? old = (if sameName old new then some (new, moved) else none) ∧
        ∃ back, after.rename new key = .ok back ∧ back.Perm database ∧
          ∀ name, back.get? name = database.get? name) ∧
    (∀ (server : Server) (given place : String), server.find? given = some (place, database) →
      server.inDatabase given (·.rename old new) = (database.rename old new).map (server.set place) ∧
      ∀ query, Statement.read query = .ok (.renameTable old new) →
        server.execute (.named given) query =
          server.settle ((database.rename old new).map fun after =>
            (.done s!"Table '{old}' renamed to '{new}'." none, server.set place after))) := by
  refine ⟨rename_succeeds_iff, ?_, ?_⟩
  · intro after h
    obtain ⟨key, table, found, free, rfl⟩ := rename_eq_ok h
    have hgone : new ∉ (database.erase key).keys :=
      Entries.not_mem_of_free (renamed_free distinct found free)
    obtain ⟨hnew, hold⟩ := find?_renamed distinct { table with name := new } found free
    have hset := Entries.set_of_not_mem { table with name := new } hgone
    refine ⟨key, table, found, hset, ?_, hnew, hold, ?_⟩
    · rw [hset, Entries.keys, List.map_append, ← Entries.keys, Entries.keys_erase]
      rfl
    · have hget := (Entries.find?_eq_some found).2
      have hname : table.name = key := named _ (Entries.mem_of_get? hget)
      obtain ⟨hperm, hsame⟩ := restored distinct.nodup hget
      have hback := rename_of_free hnew (isTaken_renamed distinct _ found free)
      rw [Entries.erase_set_of_not_mem _ hgone] at hback
      refine ⟨_, hback, ?_, ?_⟩
      · rw [← hname] at hperm ⊢
        exact hperm
      · rw [← hname] at hsame ⊢
        exact hsame
  · intro server given place chosen
    refine ⟨Server.inDatabase_of_find? _ chosen, ?_⟩
    intro query hread
    rw [Server.execute_of_ok _ hread, Server.run_renameTable old new chosen]

/-- A renaming that changes the case alone, and spells one letter as two. -/
theorem Database.renaming_moves_one_table_of_case :
    let table := Seed.table "Straße" [Seed.keyColumn "id" "int"] [[("id", .int 1)]]
    let database : Database := [("Straße", table), ("users", Seed.users)]
    let renamed : Database := [("users", Seed.users), ("strasse", { table with name := "strasse" })]
    DistinctNames database.keys ∧ (∀ entry ∈ database, entry.2.name = entry.1) ∧
      database.rename "STRASSE" "strasse" = .ok renamed ∧
      renamed.find? "STRASSE" = some ("strasse", { table with name := "strasse" }) ∧
      ∃ back, renamed.rename "strasse" "Straße" = .ok back ∧ back.Perm database := by
  intro table database renamed
  have distinct : DistinctNames database.keys := by decide +kernel
  have named : ∀ entry ∈ database, entry.2.name = entry.1 := by decide +kernel
  obtain ⟨hsucceeds, hmoves, -⟩ := renaming_moves_one_table distinct named "STRASSE" "strasse"
  have hresolve : database.resolve? "STRASSE" = some "Straße" := by decide +kernel
  have hself : database.resolve? "strasse" = some "Straße" := by decide +kernel
  obtain ⟨after, hafter⟩ := hsucceeds.mpr ⟨_, hresolve, .inr ⟨hself, by decide⟩⟩
  obtain ⟨key, moved, hfind, rfl, -, -, hold, back, hback, hperm, -⟩ := hmoves after hafter
  obtain ⟨rfl, rfl⟩ : "Straße" = key ∧ table = moved := by
    have hfound : database.find? "STRASSE" = some ("Straße", table) := by
      rw [Entries.find?, hresolve]
      rfl
    simpa [hfound] using hfind
  refine ⟨distinct, named, hafter, ?_, back, hback, hperm⟩
  exact hold.trans (if_pos (by decide +kernel))

end MockSql
