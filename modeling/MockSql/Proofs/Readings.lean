/-
# What the shapes read

A statement that is read comes from one of the shapes, and each shape makes statements of one kind
only. For a kind with parts that are read from text, the shape says where the parts come from.
-/

import MockSql.Proofs.Outcome
import MockSql.Proofs.Trim
import MockSql.Statement.Reader

namespace MockSql

open MockSql.ColumnDefinition MockSql.Text

theorem Reading.ofExcept_eq_statement {result : Except Fault Statement} {statement : Statement} :
    Reading.ofExcept result = .statement statement ↔ result = .ok statement := by
  cases result <;> simp [ofExcept]

namespace Shape

variable {text : List Char} {statement : Statement}

theorem phrase_eq_statement {words : List String} {meant : Statement}
    (h : phrase words meant text = some (.statement statement)) : statement = meant := by
  obtain ⟨_, _, hreading⟩ := Option.map_eq_some_iff.mp h
  cases hreading
  rfl

theorem phraseAndName_eq_statement {words : List String} {build : String → Statement}
    (h : phraseAndName words build text = some (.statement statement)) :
    ∃ name, statement = build name := by
  simp only [phraseAndName, Option.bind_eq_bind, Option.bind_eq_some_iff] at h
  obtain ⟨⟨name, rest⟩, _, _, _, hreading⟩ := h
  cases hreading
  exact ⟨name, rfl⟩

theorem createTable_eq_statement (h : createTable text = some (.statement statement)) :
    ∃ name body, statement = .createTable name (readBody body) := by
  simp only [createTable, Option.bind_eq_bind, Option.bind_eq_some_iff] at h
  obtain ⟨⟨name, rest⟩, _, body, _, hreading⟩ := h
  cases hreading
  exact ⟨name, body, rfl⟩

theorem renameTable_eq_statement (h : renameTable text = some (.statement statement)) :
    ∃ old new, statement = .renameTable old new := by
  simp only [renameTable, Option.bind_eq_bind, Option.bind_eq_some_iff] at h
  obtain ⟨⟨old, _⟩, _, ⟨new, _⟩, _, _, _, hreading⟩ := h
  cases hreading
  exact ⟨old, new, rfl⟩

theorem alterTable_eq_statement (h : alterTable text = some (.statement statement)) :
    ∃ table change, statement = .alterTable table change := by
  simp only [alterTable, Option.bind_eq_bind, Option.bind_eq_some_iff] at h
  obtain ⟨⟨table, rest⟩, _, hreading⟩ := h
  split at hreading
  next =>
    cases hreading
    exact ⟨table, _, rfl⟩
  next => cases hreading

theorem select_eq_statement (h : select text = some (.statement statement)) :
    ∃ selection, statement = .select selection := by
  simp only [select, Option.bind_eq_bind, Option.bind_eq_some_iff] at h
  obtain ⟨rest, _, hreading⟩ := h
  split at hreading
  next => cases hreading
  next =>
    obtain ⟨page, _, hok⟩ :=
      bind_eq_ok_iff.mp (Reading.ofExcept_eq_statement.mp (Option.some.inj hreading))
    cases hok
    exact ⟨_, rfl⟩

/-- The values of an insertion are read from the literals of its first group. -/
theorem insert_eq_statement (h : insert text = some (.statement statement)) :
    ∃ table columns body values, (Literal.splitValues body).mapM Literal.readInserted = .ok values ∧
      statement = .insert ⟨table, columns, values⟩ := by
  simp only [insert, Option.bind_eq_bind, Option.bind_eq_some_iff] at h
  obtain ⟨⟨table, columns, groups⟩, _, hreading⟩ := h
  split at hreading
  next => cases hreading
  next body hbody =>
    obtain ⟨values, hvalues, hok⟩ :=
      bind_eq_ok_iff.mp (Reading.ofExcept_eq_statement.mp (Option.some.inj hreading))
    cases hok
    exact ⟨_, _, body, values, hvalues, rfl⟩

/-- The assignments and the predicate of an update are read from their literals. -/
theorem update_eq_statement (h : update text = some (.statement statement)) :
    ∃ table list column literal assignments value, readAssignments list = .ok assignments ∧
      Literal.readAssigned literal = .ok value ∧
      statement = .update ⟨table, assignments, column, value⟩ := by
  simp only [update, Option.bind_eq_bind, Option.bind_eq_some_iff] at h
  obtain ⟨⟨table, _⟩, _, _, _, ⟨list, column, literal⟩, _, hreading⟩ := h
  obtain ⟨assignments, hassignments, hok⟩ :=
    bind_eq_ok_iff.mp (Reading.ofExcept_eq_statement.mp (Option.some.inj hreading))
  obtain ⟨value, hvalue, hok⟩ := bind_eq_ok_iff.mp hok
  cases hok
  exact ⟨table, list, column, literal, assignments, value, hassignments, hvalue, rfl⟩

/-- The ids of a deletion are read from its list. -/
theorem delete_eq_statement (h : delete text = some (.statement statement)) :
    ∃ table column list ids, readIds list = .ok ids ∧
      statement = .delete ⟨table, column, ids⟩ := by
  simp only [delete, Option.bind_eq_bind, Option.bind_eq_some_iff] at h
  obtain ⟨⟨table, _⟩, _, ⟨column, _⟩, _, ⟨list, _⟩, _, _, _, hreading⟩ := h
  obtain ⟨ids, hids, hok⟩ :=
    bind_eq_ok_iff.mp (Reading.ofExcept_eq_statement.mp (Option.some.inj hreading))
  cases hok
  exact ⟨table, column, list, ids, hids, rfl⟩

end Shape

namespace Statement

/-- There is nothing to strip off a text that begins and ends with other characters. -/
theorem strip_eq_self {text : List Char} (hfirst : ∀ c ∈ text.head?, isBlank c = false)
    (hlast : ∀ c ∈ text.getLast?, isBlank c = false ∧ c ≠ ';') : strip text = text := by
  have htrim : trim text = text := stripWhile_eq_self hfirst fun c hc => (hlast c hc).1
  have hend : text.getLast? ≠ some ';' := fun heq => (hlast ';' heq).2 rfl
  simp [strip, htrim, hend]

/-- A shape with only the literals in doubt decides, whatever becomes of them. -/
theorem readWith_ofExcept {shape : Shape} {rest : List Shape} {text : List Char}
    {result : Except Fault Statement} (hshape : shape text = some (.ofExcept result)) :
    readWith (shape :: rest) text = some result := by
  rw [readWith, hshape]
  cases result <;> rfl

theorem readWith_eq_ok {shapes : List Shape} {text : List Char} {statement : Statement}
    (h : readWith shapes text = some (.ok statement)) :
    ∃ shape ∈ shapes, shape text = some (.statement statement) := by
  induction shapes with
  | nil => cases h
  | cons shape rest ih =>
      unfold readWith at h
      split at h
      next found hshape =>
        cases h
        exact ⟨shape, List.mem_cons_self, hshape⟩
      next => cases h
      all_goals
        obtain ⟨later, hlater, hfound⟩ := ih h
        exact ⟨later, List.mem_cons_of_mem _ hlater, hfound⟩

/-- A statement that is read comes from one of the shapes. -/
theorem read_eq_ok {query : String} {statement : Statement} (h : read query = .ok statement) :
    ∃ shape ∈ shapes, shape (strip query.toList) = some (.statement statement) := by
  unfold read at h
  cases hread : readWith shapes (strip query.toList) with
  | none =>
      rw [hread] at h
      cases h
  | some result =>
      rw [hread] at h
      exact readWith_eq_ok (hread.trans (congrArg some h))

/-- A statement that some text is read as. -/
def Readable (statement : Statement) : Prop :=
  ∃ query, read query = .ok statement

/-- Where the parts of a statement come from: columns from a body, values from literals. -/
inductive Origin : Statement → Prop
  | showDatabases : Origin .showDatabases
  | createDatabase (name : String) : Origin (.createDatabase name)
  | dropDatabase (name : String) : Origin (.dropDatabase name)
  | use (name : String) : Origin (.use name)
  | showTables : Origin .showTables
  | createTable (name : String) (body : List Char) : Origin (.createTable name (readBody body))
  | dropTable (name : String) : Origin (.dropTable name)
  | truncateTable (name : String) : Origin (.truncateTable name)
  | renameTable (old new : String) : Origin (.renameTable old new)
  | alterTable (table : String) (change : ColumnChange) : Origin (.alterTable table change)
  | select (selection : Selection) : Origin (.select selection)
  | insert (table : String) (columns : Option (List String)) (body : List Char)
      {values : List Value}
      (values_eq : (Literal.splitValues body).mapM Literal.readInserted = .ok values) :
      Origin (.insert ⟨table, columns, values⟩)
  | update (table column : String) (list literal : List Char) {assignments : Row} {value : Value}
      (assignments_eq : Shape.readAssignments list = .ok assignments)
      (value_eq : Literal.readAssigned literal = .ok value) :
      Origin (.update ⟨table, assignments, column, value⟩)
  | delete (table column : String) (list : List Char) {ids : List Int}
      (ids_eq : Shape.readIds list = .ok ids) : Origin (.delete ⟨table, column, ids⟩)

/-- Every statement that is read has such an origin. -/
theorem Readable.origin {statement : Statement} (readable : statement.Readable) :
    statement.Origin := by
  obtain ⟨query, hread⟩ := readable
  obtain ⟨shape, hshape, hfound⟩ := read_eq_ok hread
  simp only [shapes, List.mem_cons, List.not_mem_nil, or_false] at hshape
  rcases hshape with rfl | rfl | rfl | rfl | rfl | rfl | rfl |
    rfl | rfl | rfl | rfl | rfl | rfl | rfl
  · exact Shape.phrase_eq_statement hfound ▸ .showDatabases
  · obtain ⟨name, rfl⟩ := Shape.phraseAndName_eq_statement hfound
    exact .createDatabase name
  · obtain ⟨name, rfl⟩ := Shape.phraseAndName_eq_statement hfound
    exact .dropDatabase name
  · obtain ⟨name, rfl⟩ := Shape.phraseAndName_eq_statement hfound
    exact .use name
  · exact Shape.phrase_eq_statement hfound ▸ .showTables
  · obtain ⟨name, body, rfl⟩ := Shape.createTable_eq_statement hfound
    exact .createTable name body
  · obtain ⟨name, rfl⟩ := Shape.phraseAndName_eq_statement hfound
    exact .dropTable name
  · obtain ⟨name, rfl⟩ := Shape.phraseAndName_eq_statement hfound
    exact .truncateTable name
  · obtain ⟨old, new, rfl⟩ := Shape.renameTable_eq_statement hfound
    exact .renameTable old new
  · obtain ⟨table, change, rfl⟩ := Shape.alterTable_eq_statement hfound
    exact .alterTable table change
  · obtain ⟨selection, rfl⟩ := Shape.select_eq_statement hfound
    exact .select selection
  · obtain ⟨table, columns, body, values, hvalues, rfl⟩ := Shape.insert_eq_statement hfound
    exact .insert table columns body hvalues
  · obtain ⟨table, list, column, literal, assignments, value, hassignments, hvalue, rfl⟩ :=
      Shape.update_eq_statement hfound
    exact .update table column list literal hassignments hvalue
  · obtain ⟨table, column, list, ids, hids, rfl⟩ := Shape.delete_eq_statement hfound
    exact .delete table column list hids

/-- The columns of a table that is created are those of some body. -/
theorem Readable.createTable {name : String} {columns : List ColumnDefinition}
    (readable : (Statement.createTable name columns).Readable) :
    ∃ body, columns = readBody body := by
  cases readable.origin with
  | createTable _ body => exact ⟨body, rfl⟩

end Statement

namespace Statement

/-- The shape that makes statements of a kind. -/
def shape : Statement → Shape
  | showDatabases => Shape.showDatabases
  | createDatabase _ => Shape.createDatabase
  | dropDatabase _ => Shape.dropDatabase
  | use _ => Shape.use
  | showTables => Shape.showTables
  | createTable _ _ => Shape.createTable
  | dropTable _ => Shape.dropTable
  | truncateTable _ => Shape.truncateTable
  | renameTable _ _ => Shape.renameTable
  | alterTable _ _ => Shape.alterTable
  | select _ => Shape.select
  | insert _ => Shape.insert
  | update _ => Shape.update
  | delete _ => Shape.delete

theorem shape_mem_shapes (statement : Statement) : statement.shape ∈ shapes := by
  cases statement <;> simp [shape, shapes]

/-- No other shape makes statements of that kind. -/
theorem shape_eq_of_mem_shapes {shape : Shape} {text : List Char} {statement : Statement}
    (hshape : shape ∈ shapes) (h : shape text = some (.statement statement)) :
    statement.shape = shape := by
  simp only [shapes, List.mem_cons, List.not_mem_nil, or_false] at hshape
  rcases hshape with rfl | rfl | rfl | rfl | rfl | rfl | rfl |
    rfl | rfl | rfl | rfl | rfl | rfl | rfl
  · cases Shape.phrase_eq_statement h
    rfl
  · obtain ⟨_, rfl⟩ := Shape.phraseAndName_eq_statement h
    rfl
  · obtain ⟨_, rfl⟩ := Shape.phraseAndName_eq_statement h
    rfl
  · obtain ⟨_, rfl⟩ := Shape.phraseAndName_eq_statement h
    rfl
  · cases Shape.phrase_eq_statement h
    rfl
  · obtain ⟨_, _, rfl⟩ := Shape.createTable_eq_statement h
    rfl
  · obtain ⟨_, rfl⟩ := Shape.phraseAndName_eq_statement h
    rfl
  · obtain ⟨_, rfl⟩ := Shape.phraseAndName_eq_statement h
    rfl
  · obtain ⟨_, _, rfl⟩ := Shape.renameTable_eq_statement h
    rfl
  · obtain ⟨_, _, rfl⟩ := Shape.alterTable_eq_statement h
    rfl
  · obtain ⟨_, rfl⟩ := Shape.select_eq_statement h
    rfl
  · obtain ⟨_, _, _, _, _, rfl⟩ := Shape.insert_eq_statement h
    rfl
  · obtain ⟨_, _, _, _, _, _, _, _, rfl⟩ := Shape.update_eq_statement h
    rfl
  · obtain ⟨_, _, _, _, _, rfl⟩ := Shape.delete_eq_statement h
    rfl

/-- The database that a text names, if it is read as a statement that chooses one. -/
def used? (query : String) : Option String :=
  match read query with
  | .ok (.use name) => some name
  | _ => none

end Statement

end MockSql
