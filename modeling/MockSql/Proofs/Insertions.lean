/-
# Insertions written out

An insertion can be written for any table, any columns and any values that literals can spell, with
further tuples behind the first. Reading it gives the table, the columns and the values of the first
tuple, and running it puts exactly these cells into a new row behind the others.
-/

import MockSql.Execution
import MockSql.Proofs.Entries
import MockSql.Proofs.Names
import MockSql.Proofs.Readings
import MockSql.Seed

namespace MockSql

open MockSql.Text MockSql.Literal

/-- The literals of values between parentheses. -/
def tuple (spellings : List Spelling) : List Char :=
  '(' :: (valueList spellings ++ [')'])

/-- The value lists of an insertion. -/
def tuples (first : List Spelling) (others : List (List Spelling)) : List Char :=
  commaList ((first :: others).map tuple)

/-- The characters of an insertion. -/
def insertionChars (table : String) (cells : Entries Spelling) (others : List (List Spelling)) :
    List Char :=
  "INSERT INTO ".toList ++ (table.toList ++ ' ' :: '(' :: (nameList cells.keys ++
    ')' :: (" VALUES ".toList ++ tuples (cells.map Prod.snd) others)))

/-- An insertion of cells into a table, perhaps with further tuples. -/
def insertionText (table : String) (cells : Entries Spelling) (others : List (List Spelling)) :
    String :=
  String.ofList (insertionChars table cells others)

/-- The row that the cells make. -/
def spelledRow (cells : Entries Spelling) : Row :=
  cells.map fun (column, spelling) => (column, spelling.value)

/-- Value lists begin with the first tuple. -/
theorem tuples_eq (first : List Spelling) (others : List (List Spelling)) :
    ∃ more, tuples first others = '(' :: (valueList first ++ ')' :: more) := by
  obtain ⟨more, hlist⟩ := commaList_cons (tuple first) (others.map tuple)
  refine ⟨more, ?_⟩
  rw [tuples, List.map_cons, hlist]
  simp [tuple]

/-- Value lists end with a parenthesis. -/
theorem getLast?_tuples (first : List Spelling) (others : List (List Spelling)) :
    (tuples first others).getLast? = some ')' := by
  induction others generalizing first with
  | nil =>
      have hlist : tuples first [] = '(' :: valueList first ++ [')'] := by simp [tuples, tuple]
      rw [hlist, List.getLast?_concat]
  | cons next rest ih =>
      have hlist : tuples first (next :: rest) =
          (tuple first ++ [',', ' ']) ++ tuples next rest := by simp [tuples]
      rw [hlist, List.getLast?_append, ih]
      rfl

theorem leadingGroup?_tuples (first : List Spelling) (others : List (List Spelling)) :
    leadingGroup? (tuples first others) = some (valueList first) := by
  obtain ⟨more, hmore⟩ := tuples_eq first others
  rw [hmore]
  exact bodyFrom?_valueList first more

theorem takeGroups?_tuples (first : List Spelling) (others : List (List Spelling)) :
    Shape.takeGroups? (" VALUES ".toList ++ tuples first others) = some (tuples first others) := by
  obtain ⟨more, hmore⟩ := tuples_eq first others
  have hlast := getLast?_tuples first others
  rw [hmore] at hlast ⊢
  have hkeyword : (afterPhrase? ["values"] (trimStart (" VALUES ".toList ++
      '(' :: (valueList first ++ ')' :: more)))).map trimStart =
        some ('(' :: (valueList first ++ ')' :: more)) := rfl
  rw [Shape.takeGroups?, hkeyword, Option.filter_some, if_pos]
  rw [hlast]
  rfl

/-- Columns and value lists behind the name of a table are found. -/
theorem takeColumns?_nameList {names : List String} (areNames : ∀ name ∈ names, IsName name)
    (rest : List Char) :
    Shape.takeColumns? (' ' :: '(' :: (nameList names ++ ')' :: rest)) =
      some (some (nameList names), rest) := by
  have hinside : ∀ c ∈ nameList names, (c != ')') = true := by
    intro c hc
    exact bne_iff_ne.mpr (not_mem_nameList areNames c hc)
  have htake := takeWhile_run hinside (bne_self_eq_false ')') rest
  have hdrop := dropWhile_run hinside (bne_self_eq_false ')') rest
  have htrim : trimStart (' ' :: '(' :: (nameList names ++ ')' :: rest)) =
      '(' :: (nameList names ++ ')' :: rest) := rfl
  simp only [Shape.takeColumns?, htrim, takeBracketed?, afterChar?, beq_self_eq_true, if_true,
    Option.bind_eq_bind, Option.bind_some, hdrop, htake, Option.map_some]

/-- The parts of an insertion are found. -/
theorem takeInsertion?_insertionChars {table : String} {cells : Entries Spelling}
    (isName : IsName table) (areNames : ∀ name ∈ cells.keys, IsName name)
    (others : List (List Spelling)) :
    Shape.takeInsertion? (insertionChars table cells others) =
      some (table.toList, some (nameList cells.keys), tuples (cells.map Prod.snd) others) := by
  let listed := ' ' :: '(' :: (nameList cells.keys ++ ')' ::
    (" VALUES ".toList ++ tuples (cells.map Prod.snd) others))
  have hkeywords : (afterPhrase? ["insert", "into"] (insertionChars table cells others)).bind
      afterBlanks? = some (trimStart (table.toList ++ listed)) := rfl
  rw [isName.trimStart_append] at hkeywords
  have hmark : skipChar nameMark (table.toList ++ listed) = table.toList ++ listed :=
    isName.skipChar_append listed
  have hlisted : Shape.takeInsertion?.listed table.toList listed =
      some (table.toList, some (nameList cells.keys), tuples (cells.map Prod.snd) others) := by
    have hskip : skipChar nameMark listed = listed := rfl
    simp only [Shape.takeInsertion?.listed, hskip, listed, takeColumns?_nameList areNames,
      takeGroups?_tuples, Option.bind_eq_bind, Option.bind_some]
  have hrun : Text.takeRun? isWord (table.toList ++ listed) = some (table.toList, listed) :=
    isName.takeRun? (by rintro c ⟨⟩; decide)
  simp only [Shape.takeInsertion?, hkeywords, Option.bind_eq_bind, Option.bind_some, hmark, hrun,
    hlisted, Option.some_or]

/-- A computation that succeeds on every item of a list succeeds on the list. -/
theorem mapM_map_eq_ok {α β γ : Type} {read : β → Except Fault γ} {write : α → β} {value : α → γ}
    (hread : ∀ item, read (write item) = .ok (value item)) (items : List α) :
    (items.map write).mapM read = .ok (items.map value) := by
  induction items with
  | nil => rfl
  | cons item rest ih =>
      rw [List.map_cons, List.mapM_cons, hread, ih]
      rfl

/-- The shape of insertions makes of a written one what it was written for. -/
theorem insert_insertionChars {table : String} {cells : Entries Spelling}
    (isName : IsName table) (areNames : ∀ name ∈ cells.keys, IsName name) (hcells : cells ≠ [])
    (others : List (List Spelling)) :
    Shape.insert (insertionChars table cells others) =
      some (.statement (.insert ⟨table, some cells.keys,
        cells.map fun cell => cell.2.value⟩)) := by
  have hkeys : cells.keys ≠ [] := by simpa [Entries.keys] using hcells
  have hcolumns : Shape.columnNames (nameList cells.keys) = cells.keys :=
    Shape.columnNames_nameList [] hkeys areNames (by simp) (by simp)
  have hpieces : splitValues (valueList (cells.map Prod.snd)) =
      (cells.map Prod.snd).map Spelling.write :=
    splitFrom_valueList (by simpa using hcells) (by simp)
  have hvalues := mapM_map_eq_ok Spelling.readInserted_write (cells.map Prod.snd)
  simp only [Shape.insert, takeInsertion?_insertionChars isName areNames, Option.bind_eq_bind,
    Option.bind_some, leadingGroup?_tuples, hpieces, hvalues, hcolumns, Option.map_some,
    String.ofList_toList]
  rw [List.map_map]
  rfl

/-- A text that begins with `I` has no shape before that of insertions. -/
theorem readWith_shapes (rest : List Char) {statement : Statement}
    (hinsert : Shape.insert ('I' :: rest) = some (.statement statement)) :
    Statement.readWith Statement.shapes ('I' :: rest) = some (.ok statement) := by
  have hothers : Statement.readWith Statement.shapes ('I' :: rest) =
      Statement.readWith [Shape.insert, Shape.update, Shape.delete] ('I' :: rest) := rfl
  rw [hothers, Statement.readWith, hinsert]

/-- A written insertion begins with a letter and ends with a parenthesis. -/
theorem insertionChars_ends (table : String) (cells : Entries Spelling)
    (others : List (List Spelling)) :
    (∃ rest, insertionChars table cells others = 'I' :: rest) ∧
      (insertionChars table cells others).getLast? = some ')' := by
  refine ⟨⟨_, rfl⟩, ?_⟩
  have hgroups := getLast?_tuples (cells.map Prod.snd) others
  have hlist := getLast?_append_of_eq_some (nameList cells.keys)
    (getLast?_append_of_eq_some [')'] (getLast?_append_of_eq_some " VALUES ".toList hgroups))
  exact getLast?_append_of_eq_some _ (getLast?_append_of_eq_some _
    (getLast?_append_of_eq_some [' ', '('] hlist))

/-- There is nothing to strip off a written insertion. -/
theorem strip_insertionChars (table : String) (cells : Entries Spelling)
    (others : List (List Spelling)) :
    Statement.strip (insertionChars table cells others) = insertionChars table cells others := by
  obtain ⟨⟨rest, hfirst⟩, hlast⟩ := insertionChars_ends table cells others
  apply Statement.strip_eq_self
  · rw [hfirst]
    rintro c ⟨⟩
    decide +kernel
  · rw [hlast]
    rintro c ⟨⟩
    decide +kernel

/-- An insertion is read as the one it was written for. -/
theorem read_insertionText {table : String} {cells : Entries Spelling}
    (isName : IsName table) (areNames : ∀ name ∈ cells.keys, IsName name) (hcells : cells ≠ [])
    (others : List (List Spelling)) :
    Statement.read (insertionText table cells others) =
      .ok (.insert ⟨table, some cells.keys, cells.map fun cell => cell.2.value⟩) := by
  obtain ⟨⟨rest, hfirst⟩, hlast⟩ := insertionChars_ends table cells others
  have hinsert := insert_insertionChars isName areNames hcells others
  rw [hfirst] at hinsert
  rw [Statement.read, insertionText, String.toList_ofList, strip_insertionChars, hfirst,
    readWith_shapes rest hinsert]
  rfl

/-- Cells of different columns make a row of just these cells, in their order. -/
theorem setAll_pairCells {cells : Entries Spelling} (distinct : cells.keys.Nodup) :
    Entries.setAll [] (Table.pairCells cells.keys (cells.map fun cell => cell.2.value)) =
      spelledRow cells := by
  have hpairs : Table.pairCells cells.keys (cells.map fun cell => cell.2.value) =
      spelledRow cells := by
    clear distinct
    induction cells with
    | nil => rfl
    | cons cell rest ih => exact congrArg (List.cons _) ih
  have hkeys : (spelledRow cells).keys = cells.keys := by
    simp [spelledRow, Entries.keys, Function.comp_def]
  rw [hpairs]
  refine Entries.setAll_of_distinct [] ?_
  rw [hkeys]
  exact distinct

/-- Inserting cells appends their row, unless the table numbers a column that is not among them. -/
theorem Table.insert_cells {target : Table} (table : String) {cells : Entries Spelling}
    (distinct : cells.keys.Nodup)
    (hnumbered : ∀ column, target.schema.find? (·.isPrimary) = some column →
      column.isNumbered = true → ∃ name ∈ cells.keys, column.name = .ok name) :
    target.insert ⟨table, some cells.keys, cells.map fun cell => cell.2.value⟩ =
      .ok (.done "1 row inserted." (some 1),
        target.withRows (target.rows ++ [spelledRow cells])) := by
  have hnokey : target.numberedKey? cells.keys = .ok none := by
    unfold numberedKey?
    split
    next => rfl
    next column hcolumn =>
      split
      next hmark =>
        obtain ⟨name, hmem, hname⟩ := hnumbered column hcolumn hmark
        simp [hname, bind_ok, hmem]
      next => rfl
  simp only [insert, targetColumns, bind_ok, hnokey, setAll_pairCells distinct]

/-- An insertion is read back as the table, the columns and the values of its first tuple. Run on a
table that does not number a column outside the list, it appends the row of these cells and changes
nothing else. -/
theorem insertionText_round_trip (table : String) (cells : Entries Spelling)
    (isName : IsName table) (areNames : ∀ name ∈ cells.keys, IsName name)
    (distinct : cells.keys.Nodup) (hcells : cells ≠ []) (others : List (List Spelling)) :
    Statement.read (insertionText table cells others) =
        .ok (.insert ⟨table, some cells.keys, cells.map fun cell => cell.2.value⟩) ∧
      ∀ (server : Server) (given key stored : String) (tables : Database) (target : Table),
        server.find? given = some (key, tables) → tables.find? table = some (stored, target) →
        (∀ column, target.schema.find? (·.isPrimary) = some column → column.isNumbered = true →
          ∃ name ∈ cells.keys, column.name = .ok name) →
        server.execute (.named given) (insertionText table cells others) =
          (.ok (.done "1 row inserted." (some 1)), server.set key (tables.set stored
            (target.withRows (target.rows ++ [spelledRow cells])))) := by
  have hread := read_insertionText isName areNames hcells others
  refine ⟨hread, ?_⟩
  intro server given key stored tables target hdatabase htable hnumbered
  have hinsert := Table.insert_cells table distinct hnumbered
  have hcurrent : (Current.named given).find server = .ok (given, key, tables) := by
    simp only [Current.find, hdatabase]
  have hrun : tables.run given key (.insert ⟨table, some cells.keys,
      cells.map fun cell => cell.2.value⟩) = .ok (.done "1 row inserted." (some 1),
        tables.set stored (target.withRows (target.rows ++ [spelledRow cells]))) := by
    simp only [Database.run, Database.onTable, htable, hinsert, bind_ok]
  unfold Server.execute
  rw [hread]
  simp only [Except.bind, Server.run, hcurrent, bind_ok, hrun]

/-- A text full of separators, inserted into the built-in users with a second tuple behind it. -/
theorem insertionText_round_trip_of_separators :
    let cells : Entries Spelling := [("id", .integer (-7) (by decide)),
      ("name", .text "O'Neil, \"(x)\"); VALUES ('y"), ("email", .nothing)]
    Seed.server.execute (.named "demo_db") (insertionText "users" cells [[.text "z", .nothing]]) =
      (.ok (.done "1 row inserted." (some 1)), Seed.server.set "demo_db"
        (Entries.set [("users", Seed.users), ("products", Seed.products)] "users"
          (Seed.users.withRows (Seed.users.rows ++ [[("id", .int (-7)),
            ("name", .text "O'Neil, \"(x)\"); VALUES ('y"), ("email", .null)]])))) := by
  intro cells
  have hround := insertionText_round_trip "users" cells (by decide) (by decide) (by decide)
    (List.cons_ne_nil _ _) [[.text "z", .nothing]]
  refine hround.2 Seed.server "demo_db" "demo_db" "users" _ Seed.users rfl rfl ?_
  intro column hcolumn hmark
  have hprimary : Seed.users.schema.find? (·.isPrimary) =
      some (Seed.keyColumn "id" "int(11)") := rfl
  rw [hprimary] at hcolumn
  cases hcolumn
  exact ⟨"id", by decide, rfl⟩

end MockSql
