/-
# Coherent stores

A server repeats some facts: a table stands under its own name and stores the number of its rows,
names are found ignoring case, and a schema marks its primary key. The server is coherent when the
copies agree with the originals, no two databases and no two tables of a database have the same
name ignoring case, and no schema marks two columns. Every step keeps a server coherent, so every
run from a coherent seed does.
-/

import MockSql.ColumnDefinition.Reader
import MockSql.Proofs.Steps
import MockSql.Seed

namespace MockSql

/-- A table agrees with the name it is stored under, with the number of its rows, and has at most
one primary key. -/
structure Table.Coherent (table : Table) (key : String) : Prop where
  name_eq : table.name = key
  rowCount_eq : table.rowCount = table.rows.length
  primary_le_one : table.schema.countP (·.isPrimary) ≤ 1

/-- The tables of a database are coherent under distinct names. -/
structure Database.Coherent (database : Database) : Prop where
  distinct : DistinctNames database.keys
  tables : ∀ entry ∈ database, entry.2.Coherent entry.1

/-- The databases of a server are coherent under distinct names. -/
structure Server.Coherent (server : Server) : Prop where
  distinct : DistinctNames server.keys
  databases : ∀ entry ∈ server, Database.Coherent entry.2

instance (table : Table) (key : String) : Decidable (table.Coherent key) :=
  decidable_of_iff (table.name = key ∧ table.rowCount = table.rows.length ∧
      table.schema.countP (·.isPrimary) ≤ 1)
    ⟨fun h => ⟨h.1, h.2.1, h.2.2⟩, fun h => ⟨h.name_eq, h.rowCount_eq, h.primary_le_one⟩⟩

instance (database : Database) : Decidable database.Coherent :=
  decidable_of_iff (DistinctNames database.keys ∧ ∀ entry ∈ database, entry.2.Coherent entry.1)
    ⟨fun h => ⟨h.1, h.2⟩, fun h => ⟨h.distinct, h.tables⟩⟩

instance (server : Server) : Decidable server.Coherent :=
  decidable_of_iff (DistinctNames server.keys ∧ ∀ entry ∈ server, Database.Coherent entry.2)
    ⟨fun h => ⟨h.1, h.2⟩, fun h => ⟨h.distinct, h.databases⟩⟩

namespace ColumnDefinition

/-- How many of some columns are the primary key. -/
def primaryCount (columns : List ColumnDefinition) : Nat :=
  columns.countP (·.key == .primary)

/-- A column that is read when there is a primary key already is none. -/
theorem readColumn?_of_hasPrimary {primaryName : Option String} {fragment : List Char}
    {column : ColumnDefinition} (h : readColumn? primaryName true fragment = some column) :
    column.key ≠ .primary := by
  unfold readColumn? at h
  simp only [Option.bind_eq_bind, Option.bind_eq_some_iff] at h
  obtain ⟨⟨name, afterName⟩, hname, ⟨type, clauses⟩, htype, hcolumn⟩ := h
  cases hcolumn
  simp only [Bool.not_true, Bool.and_false]
  split
  next hfalse => cases hfalse
  next => split <;> simp

theorem primaryCount_addFragment_le {primaryName : Option String}
    {columns : List ColumnDefinition} (fragment : List Char) (h : primaryCount columns ≤ 1) :
    primaryCount (addFragment primaryName columns fragment) ≤ 1 := by
  unfold addFragment
  split
  next column hread =>
    rw [primaryCount, List.countP_append, List.countP_singleton]
    by_cases hkey : haveKey columns = true
    · rw [hkey] at hread
      have hcolumn : (column.key == .primary) = false := by
        simpa using readColumn?_of_hasPrimary hread
      simpa [hcolumn, primaryCount] using h
    · have hnone : columns.countP (·.key == .primary) = 0 := by
        simpa [haveKey, List.countP_eq_zero] using hkey
      rw [hnone]
      split <;> simp
  next => exact h

/-- A table-level clause neither makes a primary key nor takes one away. -/
theorem applyClause_isPrimary (clause : List Char) (column : ColumnDefinition) :
    ((applyClause clause column).key == .primary) = (column.key == .primary) := by
  by_cases hkey : column.key = .primary
  · simp [applyClause, hkey]
  · have hbeq : (column.key == .primary) = false := by simpa using hkey
    simp only [applyClause, hbeq, Bool.false_eq_true, if_false]
    split
    next =>
      by_cases hnone : column.key = .none <;> simp [hnone, hkey]
    next =>
      split
      next => rfl
      next => by_cases hnone : column.key = .none <;> simp [hnone, hkey]

theorem countP_modifyLast {test : ColumnDefinition → Bool} {name : String}
    {change : ColumnDefinition → ColumnDefinition}
    (keeps : ∀ column, test (change column) = test column) (columns : List ColumnDefinition) :
    (modifyLast name change columns).countP test = columns.countP test := by
  induction columns with
  | nil => rfl
  | cons column rest ih =>
      unfold modifyLast
      split
      next => simp [List.countP_cons, keeps]
      next => simp [List.countP_cons, ih]

theorem primaryCount_addClause (columns : List ColumnDefinition) (clause : List Char) :
    primaryCount (addClause columns clause) = primaryCount columns := by
  unfold addClause
  split
  next name =>
    exact countP_modifyLast (applyClause_isPrimary clause) columns
  next => rfl

/-- However a body marks its columns, at most one of them is the primary key. -/
theorem primaryCount_readBody_le_one (body : List Char) : primaryCount (readBody body) ≤ 1 := by
  have hcolumns : ∀ (fragments : List (List Char)) (columns : List ColumnDefinition),
      primaryCount columns ≤ 1 →
      primaryCount (fragments.foldl (addFragment (primaryName? body)) columns) ≤ 1 := by
    intro fragments
    induction fragments with
    | nil =>
        intro columns hcolumns
        exact hcolumns
    | cons fragment rest ih =>
        intro columns hcolumns
        apply ih
        exact primaryCount_addFragment_le fragment hcolumns
  have hclauses : ∀ (clauses : List (List Char)) (columns : List ColumnDefinition),
      primaryCount (clauses.foldl addClause columns) = primaryCount columns := by
    intro clauses
    induction clauses with
    | nil =>
        intro columns
        rfl
    | cons clause rest ih =>
        intro columns
        rw [List.foldl_cons, ih, primaryCount_addClause]
  unfold readBody
  rw [hclauses]
  exact hcolumns _ _ (Nat.zero_le 1)

/-- The schema marks exactly the primary key. -/
theorem toColumn_isPrimary (column : ColumnDefinition) :
    column.toColumn.isPrimary = (column.key == .primary) := by
  have hget : column.toColumn.attributes.get? "key" = some (.text column.key.label) := rfl
  unfold Column.isPrimary Column.hasText
  rw [hget]
  cases column.key <;> decide

end ColumnDefinition

namespace Table

variable {table after : Table} {key : String}

/-- Rows may be replaced together with their number. -/
theorem Coherent.withRows (coherent : table.Coherent key) (rows : List Row) :
    (table.withRows rows).Coherent key where
  name_eq := coherent.name_eq
  rowCount_eq := rfl
  primary_le_one := coherent.primary_le_one

/-- A table of definitions that a body gives is coherent. -/
theorem ofDefinitions_coherent (name : String) (body : List Char) :
    (ofDefinitions name (ColumnDefinition.readBody body)).Coherent name where
  name_eq := rfl
  rowCount_eq := rfl
  primary_le_one := by
    have hmarks : (fun column : ColumnDefinition => column.toColumn.isPrimary) =
        fun column => column.key == .primary :=
      funext ColumnDefinition.toColumn_isPrimary
    simp only [ofDefinitions, List.countP_map, Function.comp_def, hmarks]
    exact ColumnDefinition.primaryCount_readBody_le_one body

theorem alter_coherent {change : ColumnChange} {answer : Answer} (coherent : table.Coherent key)
    (h : table.alter change = .ok (answer, after)) : after.Coherent key := by
  cases change with
  | drop column =>
      obtain ⟨dropped, _, _, rfl⟩ := dropColumn_eq_ok h
      refine ⟨coherent.name_eq, ?_, ?_⟩
      · simpa using coherent.rowCount_eq
      · exact Nat.le_trans (List.filter_sublist.countP_le) coherent.primary_le_one
  | add column type =>
      obtain ⟨_, _, rfl⟩ := addColumn_eq_ok h
      refine ⟨coherent.name_eq, ?_, ?_⟩
      · simpa using coherent.rowCount_eq
      · have hplain : ({ name := column, type } : ColumnDefinition).toColumn.isPrimary = false :=
          ColumnDefinition.toColumn_isPrimary _
        simpa [List.countP_append, List.countP_singleton, hplain] using coherent.primary_le_one

/-- An edited table stays coherent under its name. -/
theorem Edit.coherent (edited : table.Edit after) (coherent : table.Coherent key) :
    after.Coherent key := by
  cases edited with
  | truncate => exact coherent.withRows []
  | alter readable succeeds => exact alter_coherent coherent succeeds
  | insert readable succeeds =>
      obtain ⟨_, _, _, _, _, _, _, rfl⟩ := insert_eq_ok succeeds
      exact coherent.withRows _
  | update readable succeeds =>
      obtain ⟨before, row, rest, hrows, _, _, _, rfl⟩ := update_eq_ok succeeds
      refine ⟨coherent.name_eq, ?_, coherent.primary_le_one⟩
      simpa [hrows] using coherent.rowCount_eq
  | delete readable succeeds =>
      obtain ⟨_, kept, _, _, _, rfl⟩ := delete_eq_ok succeeds
      exact coherent.withRows kept

end Table

namespace Database

variable {database after : Database}

theorem Coherent.of_find? (coherent : database.Coherent) {name key : String} {table : Table}
    (found : database.find? name = some (key, table)) : table.Coherent key :=
  coherent.tables (key, table) (Entries.mem_of_find? found)

/-- A new name is free if only the renamed table has it: no other table has it then. -/
theorem renamed_free (distinct : DistinctNames database.keys) {old key new : String}
    {table : Table} (found : database.find? old = some (key, table))
    (free : database.isTaken key new = false) :
    Entries.resolve? (database.erase key) new = none := by
  have hkey : key ∈ database.keys := Entries.mem_keys_of_mem (Entries.mem_of_find? found)
  rw [Entries.resolve?_eq_none_iff, Entries.keys_erase]
  intro other hother hsame
  obtain ⟨hstored, hne⟩ := List.mem_filter.mp hother
  unfold isTaken at free
  split at free
  next newKey hnew =>
    obtain ⟨hnewKey, hfolded⟩ := Entries.resolve?_eq_some hnew
    have hself : newKey = key := by simpa using (Bool.or_eq_false_iff.mp free).1
    have heq : other = key :=
      distinct.eq_of_folded hstored hkey (hsame.trans (hself ▸ hfolded.symm))
    simp [heq] at hne
  next hnew => exact Entries.resolve?_eq_none_iff.mp hnew other hstored hsame

/-- A step keeps a database coherent. -/
theorem Step.coherent (step : database.Step after) (coherent : database.Coherent) :
    after.Coherent := by
  cases step with
  | keep => exact coherent
  | create readable free =>
      obtain ⟨body, rfl⟩ := readable.createTable
      refine ⟨Entries.distinct_set_of_free _ coherent.distinct free, ?_⟩
      intro entry hentry
      rcases Entries.mem_of_mem_set hentry with rfl | hstored
      · exact Table.ofDefinitions_coherent _ body
      · exact coherent.tables entry hstored
  | drop found =>
      refine ⟨Entries.distinct_erase _ coherent.distinct, ?_⟩
      intro entry hentry
      exact coherent.tables entry (Entries.mem_of_mem_erase hentry)
  | rename found free =>
      refine ⟨Entries.distinct_set_of_free _ (Entries.distinct_erase _ coherent.distinct)
        (renamed_free coherent.distinct found free), ?_⟩
      intro entry hentry
      rcases Entries.mem_of_mem_set hentry with rfl | hstored
      · have htable := coherent.of_find? found
        exact ⟨rfl, htable.rowCount_eq, htable.primary_le_one⟩
      · exact coherent.tables entry (Entries.mem_of_mem_erase hstored)
  | edit found edited =>
      refine ⟨(Entries.keys_set_of_find? _ found).symm ▸ coherent.distinct, ?_⟩
      intro entry hentry
      rcases Entries.mem_of_mem_set hentry with rfl | hstored
      · exact edited.coherent (coherent.of_find? found)
      · exact coherent.tables entry hstored

end Database

namespace Server

/-- A step keeps a server coherent. -/
theorem Step.coherent {server after : Server} (step : server.Step after)
    (coherent : server.Coherent) : after.Coherent := by
  cases step with
  | keep => exact coherent
  | create name free =>
      refine ⟨Entries.distinct_set_of_free _ coherent.distinct free, ?_⟩
      refine (Entries.forall_set_iff coherent.databases).mpr ⟨List.nodup_nil, ?_⟩
      exact fun _ htable => absurd htable List.not_mem_nil
  | drop found =>
      exact ⟨Entries.distinct_erase _ coherent.distinct, Entries.forall_erase coherent.databases⟩
  | inside found step =>
      refine ⟨(Entries.keys_set_of_find? _ found).symm ▸ coherent.distinct, ?_⟩
      exact (Entries.forall_set_iff coherent.databases).mpr
        (step.coherent (coherent.databases _ (Entries.mem_of_find? found)))

end Server

namespace Store

/-- From a coherent seed every run of statements, direct calls and resets leads to a coherent
server. -/
theorem coherent_after_run {seed : Server} (coherent : seed.Coherent) (events : List Event) :
    ((Store.ofSeed seed).afterAll events).server.Coherent :=
  afterAll_induction (fun held step => step.coherent held) coherent coherent events

/-- The built-in seed is coherent, and so is what two changes of a name's case, a table with two
primary keys and a reset in between make of it. -/
theorem coherent_after_run_of_builtin :
    Seed.server.Coherent ∧
      ((Store.ofSeed Seed.server).afterAll
        [.renameTable "demo_db" "users" "USERS", .reset, .createDatabase "Straße",
          .statement (.named "STRASSE") "CREATE TABLE t (a int PRIMARY KEY, b int PRIMARY KEY)",
          .statement (.named "strasse") "RENAME TABLE t TO T"]).server.Coherent :=
  have coherent : Seed.server.Coherent := by decide +kernel
  ⟨coherent, coherent_after_run coherent _⟩

end Store

end MockSql
