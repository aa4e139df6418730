/-
# Names of databases and tables in other spellings

Where the names of a server are different ignoring case, every spelling of a name finds the same
database or table, and every statement finds its database and its table in this one way. So a
statement does the same in whatever spelling its names are given; only its wording repeats them.
-/

import MockSql.Proofs.Entries
import MockSql.Proofs.Steps
import MockSql.Seed

namespace MockSql

namespace Entries

variable {α : Type} {entries : Entries α} {old new : String}

/-- Two spellings of a name resolve to the same stored name, if the stored names are different. -/
theorem resolve?_respell (distinct : DistinctNames entries.keys)
    (same : sameName old new = true) : entries.resolve? new = entries.resolve? old := by
  have hfolded : foldedName old = foldedName new := sameName_iff.mp same
  cases hnew : entries.resolve? new with
  | none =>
      rw [resolve?_eq_none_iff, ← hfolded] at hnew
      exact (resolve?_eq_none_iff.mpr hnew).symm
  | some found =>
      obtain ⟨hfound, hfoldedFound⟩ := resolve?_eq_some hnew
      cases hold : entries.resolve? old with
      | none => exact absurd (hfoldedFound.trans hfolded.symm) (resolve?_eq_none_iff.mp hold found hfound)
      | some stored =>
          obtain ⟨hstored, hfoldedStored⟩ := resolve?_eq_some hold
          have hequal := hfoldedFound.trans (hfolded.symm.trans hfoldedStored.symm)
          rw [distinct.eq_of_folded hfound hstored hequal]

theorem find?_respell (distinct : DistinctNames entries.keys) (same : sameName old new = true) :
    entries.find? new = entries.find? old := by
  rw [find?, find?, resolve?_respell distinct same]

end Entries

/-- An answer without its message. -/
def Answer.withoutMessage : Answer → Answer
  | .rows columns selected total => .rows columns selected total
  | .done _ affected => .done "" affected

/-- What a result gives and leaves, apart from its message or fault. -/
def wordless {σ : Type} (result : Except Fault (Answer × σ)) : Option (Answer × σ) :=
  result.toOption.map fun (answer, state) => (answer.withoutMessage, state)

/-- Putting back what a result leaves does not depend on its message. -/
theorem wordless_bind {σ τ : Type} (result : Except Fault (Answer × σ)) (putBack : σ → τ) :
    wordless (result >>= fun ran => .ok (ran.1, putBack ran.2)) =
      (wordless result).map fun (answer, state) => (answer, putBack state) := by
  cases result <;> rfl

namespace Statement

/-- A statement with another name for the table that it is about. -/
def withTable (name : String) : Statement → Statement
  | dropTable _ => dropTable name
  | truncateTable _ => truncateTable name
  | renameTable _ new => renameTable name new
  | alterTable _ change => alterTable name change
  | select selection => select { selection with source := some name }
  | insert insertion => insert { insertion with table := name }
  | update changes => update { changes with table := name }
  | delete deletion => delete { deletion with table := name }
  | other => other

end Statement

namespace Database

variable {database : Database} {old new : String}

/-- A table is changed in the same way under every spelling of its name. -/
theorem onTable_respell (distinct : DistinctNames database.keys) (same : sameName old new = true)
    (missing missing' : Fault) {change change' : Table → Except Fault (Answer × Table)}
    (hchange : ∀ table, wordless (change' table) = wordless (change table)) :
    wordless (database.onTable new missing' change') =
      wordless (database.onTable old missing change) := by
  rw [onTable, onTable, Entries.find?_respell distinct same]
  cases database.find? old with
  | none => rfl
  | some found =>
      obtain ⟨key, table⟩ := found
      simp only [wordless_bind (change' table) (database.set key),
        wordless_bind (change table) (database.set key), hchange]

/-- A statement does the same in a database under every spelling of its table's name. -/
theorem run_withTable (distinct : DistinctNames database.keys) (same : sameName old new = true)
    {statement : Statement} (about : statement.table? = some old) (given key : String) :
    wordless (database.run given key (statement.withTable new)) =
      wordless (database.run given key statement) := by
  have hresolve : database.resolve? new = database.resolve? old :=
    Entries.resolve?_respell distinct same
  have hfind : database.find? new = database.find? old := Entries.find?_respell distinct same
  cases statement with
  | showDatabases | createDatabase | dropDatabase | use | showTables | createTable => cases about
  | dropTable name =>
      cases about
      simp only [Statement.withTable, run, drop, hresolve]
      cases database.resolve? old <;> rfl
  | truncateTable name =>
      cases about
      exact onTable_respell distinct same _ _ fun table => rfl
  | renameTable name other =>
      cases about
      simp only [Statement.withTable, run, rename, hfind]
      cases database.find? old with
      | none => rfl
      | some found =>
          cases hfree : database.isTaken found.1 other <;>
            simp only [hfree, Bool.false_eq_true, if_false, if_true] <;> rfl
  | alterTable name change =>
      cases about
      exact onTable_respell distinct same _ _ fun table => rfl
  | select selection =>
      have hsource : selection.source = some old := about
      simp only [Statement.withTable, run, select, hsource, Option.bind_some, hfind]
      cases database.find? old <;> rfl
  | insert insertion =>
      cases about
      exact onTable_respell distinct same _ _ fun table => rfl
  | update changes =>
      cases about
      exact onTable_respell distinct same _ _ fun table => rfl
  | delete deletion =>
      cases about
      exact onTable_respell distinct same _ _ fun table => rfl

/-- Only a selection that finds no table repeats the name that the database was given by. -/
theorem run_given (database : Database) (given other key : String) (statement : Statement) :
    database.run other key statement = database.run given key statement ∨
      database.run given key statement = .error (.noSuchSource given) ∧
        database.run other key statement = .error (.noSuchSource other) := by
  cases statement with
  | select selection =>
      simp only [run, select]
      cases selection.source.bind database.find? with
      | none => exact .inr ⟨rfl, rfl⟩
      | some found => exact .inl rfl
  | _ => exact .inl rfl

end Database

/-- The names of the databases are different ignoring case, and so are those of the tables in each. -/
structure Server.HasDistinctNames (server : Server) : Prop where
  databases : DistinctNames server.keys
  tables : ∀ database ∈ server, DistinctNames (Entries.keys database.2)

instance (server : Server) : Decidable server.HasDistinctNames :=
  decidable_of_iff (DistinctNames server.keys ∧
      ∀ database ∈ server, DistinctNames (Entries.keys database.2))
    ⟨fun h => ⟨h.1, h.2⟩, fun h => ⟨h.databases, h.tables⟩⟩

namespace Server

variable {server : Server} {old new : String}

/-- The outcome of a result, and the server after it: a failure leaves it as it was. -/
def settle (server : Server) : Except Fault (Answer × Server) → Except Fault Answer × Server
  | .ok (answer, changed) => (.ok answer, changed)
  | .error fault => (.error fault, server)

theorem execute_eq_settle (server : Server) (current : Current) (query : String) :
    server.execute current query =
      server.settle ((Statement.read query).bind (server.run current)) := by
  unfold execute
  cases (Statement.read query).bind (server.run current) <;> rfl

/-- A result settles to the same, apart from its wording, as another that is the same. -/
theorem settle_of_wordless {first second : Except Fault (Answer × Server)}
    (hsame : wordless second = wordless first) :
    (server.settle second).2 = (server.settle first).2 ∧
      (server.settle second).1.toOption.map Answer.withoutMessage =
        (server.settle first).1.toOption.map Answer.withoutMessage := by
  cases first with
  | error fault =>
      cases second with
      | error other => exact ⟨rfl, rfl⟩
      | ok ran => cases hsame
  | ok ran =>
      cases second with
      | error other => cases hsame
      | ok other =>
          obtain ⟨hanswer, hserver⟩ := Prod.mk.inj (Option.some.inj hsame)
          exact ⟨hserver, congrArg some hanswer⟩

/-- A statement that is about a table needs a current database. -/
theorem needsDatabase_of_table? {statement : Statement} (name : String)
    (about : statement.table? = some old) :
    statement.needsDatabase = true ∧ (statement.withTable name).needsDatabase = true := by
  cases statement with
  | showDatabases | createDatabase | dropDatabase | use => cases about
  | _ => exact ⟨rfl, rfl⟩

/-- A statement does the same under every spelling of its table's name. -/
theorem run_withTable (distinct : server.HasDistinctNames) (same : sameName old new = true)
    {statement : Statement} (about : statement.table? = some old) (current : Current) :
    wordless (server.run current (statement.withTable new)) =
      wordless (server.run current statement) := by
  obtain ⟨hneeds, hneeds'⟩ := needsDatabase_of_table? new about
  rw [run_table hneeds, run_table hneeds']
  cases hfind : current.find server with
  | error fault => rfl
  | ok found =>
      obtain ⟨given, key, tables⟩ := found
      have hstored : (key, tables) ∈ server := Entries.mem_of_find? (Current.find_eq_ok hfind).2
      have htables := Database.run_withTable (distinct.tables _ hstored) same about given key
      simp only [bind_ok, wordless_bind _ (server.set key), htables]

/-- A statement does the same under every spelling of the current database's name. -/
theorem run_named (distinct : server.HasDistinctNames) (same : sameName old new = true)
    (statement : Statement) :
    server.run (.named new) statement = server.run (.named old) statement ∨
      server.run (.named old) statement = .error (.noSuchSource old) ∧
        server.run (.named new) statement = .error (.noSuchSource new) := by
  by_cases needs : statement.needsDatabase = true
  · have hfind : server.find? new = server.find? old :=
      Entries.find?_respell distinct.databases same
    rw [run_table needs, run_table needs, Current.find, Current.find, hfind]
    cases server.find? old with
    | none => exact .inl rfl
    | some found =>
        obtain ⟨key, tables⟩ := found
        simp only [bind_ok]
        rcases tables.run_given old new key statement with hequal | ⟨hold, hnew⟩
        · exact .inl (by rw [hequal])
        · rw [hold, hnew]
          exact .inr ⟨rfl, rfl⟩
  · cases statement with
    | showDatabases | createDatabase | dropDatabase | use => exact .inl rfl
    | _ => exact absurd rfl needs

/-- Names resolve ignoring case. A text does the same in whatever spelling the current database is
given, except that a selection without a table repeats that spelling in its fault; and a statement
does the same in whatever spelling it names its table, apart from its wording. -/
theorem names_ignore_case (distinct : server.HasDistinctNames) :
    (∀ query old new, sameName old new = true →
      (server.execute (.named new) query).2 = (server.execute (.named old) query).2 ∧
        ((server.execute (.named new) query).1 = (server.execute (.named old) query).1 ∨
          (server.execute (.named old) query).1 = .error (.noSuchSource old) ∧
            (server.execute (.named new) query).1 = .error (.noSuchSource new))) ∧
      ∀ current statement old new, statement.table? = some old → sameName old new = true →
        let before := server.settle (server.run current statement)
        let after := server.settle (server.run current (statement.withTable new))
        after.2 = before.2 ∧
          after.1.toOption.map Answer.withoutMessage =
            before.1.toOption.map Answer.withoutMessage := by
  refine ⟨?_, ?_⟩
  · intro query old new same
    rw [execute_eq_settle, execute_eq_settle]
    cases Statement.read query with
    | error fault => exact ⟨rfl, .inl rfl⟩
    | ok statement =>
        simp only [Except.bind]
        rcases run_named distinct same statement with hequal | ⟨hold, hnew⟩
        · rw [hequal]
          exact ⟨rfl, .inl rfl⟩
        · rw [hold, hnew]
          exact ⟨rfl, .inr ⟨rfl, rfl⟩⟩
  · intro current statement old new about same
    exact settle_of_wordless (run_withTable distinct same about current)

/-- Spellings of different length, for a database and for a table in it. -/
theorem names_ignore_case_of_sharp_s :
    let server : Server := [("Straße", [("Größe", Seed.users)])]
    let deletion : Statement := .delete ⟨"GRÖSSE", "ID", [1, 7]⟩
    server.HasDistinctNames ∧ sameName "straße" "STRASSE" = true ∧
      sameName "GRÖSSE" "größe" = true ∧
      (server.execute (.named "STRASSE") "SELECT * FROM größe").1 =
        (server.execute (.named "straße") "SELECT * FROM größe").1 ∧
      (server.run (.named "straße") deletion).toOption.map Prod.fst =
        some (.done "1 row(s) deleted." (some 1)) ∧
      (server.settle (server.run (.named "straße") (deletion.withTable "größe"))).2 =
        (server.settle (server.run (.named "straße") deletion)).2 := by
  intro server deletion
  have distinct : server.HasDistinctNames := by decide +kernel
  have hstreet : sameName "straße" "STRASSE" = true := by decide +kernel
  have hsize : sameName "GRÖSSE" "größe" = true := by decide +kernel
  obtain ⟨hdatabases, htables⟩ := names_ignore_case distinct
  have hanswers : (server.execute (.named "straße") "SELECT * FROM größe").1.isOk = true := by
    decide +kernel
  refine ⟨distinct, hstreet, hsize, ?_, by decide +kernel, ?_⟩
  · refine (hdatabases "SELECT * FROM größe" _ _ hstreet).2.resolve_right ?_
    rintro ⟨hfault, -⟩
    rw [hfault] at hanswers
    cases hanswers
  · exact (htables (.named "straße") deletion _ _ rfl hsize).1

end Server

end MockSql
