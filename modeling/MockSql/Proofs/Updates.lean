/-
# Updates written out

An update can be written for any table, any columns and any texts to set and to look for. Its
predicate is found at the last place where one can begin. A comma, a keyword or an equals sign in
a text that is set is therefore harmless, but a predicate inside the text that is looked for is
taken for the predicate of the update, and then another update is read than was written.
-/

import Mathlib.Data.List.Basic
import MockSql.Proofs.Entries
import MockSql.Proofs.Predicates
import MockSql.Proofs.Readings

namespace MockSql

open MockSql.Text MockSql.Literal

/-- The literal of a text. -/
def quoted (text : String) : List Char :=
  (Spelling.text text).write

/-- A column and a text with an equals sign between them. -/
def equation (column text : String) : List Char :=
  column.toList ++ (" = ".toList ++ quoted text)

/-- Assignments of texts to columns. -/
def assignmentList (cells : Entries String) : List Char :=
  commaList (cells.map fun cell => equation cell.1 cell.2)

/-- The characters of an update. -/
def updateChars (table : String) (cells : Entries String) (column text : String) : List Char :=
  "UPDATE ".toList ++ (table.toList ++ (" SET ".toList ++
    (assignmentList cells ++ (" WHERE ".toList ++ equation column text))))

/-- An update of a table that sets cells where a column holds a text. -/
def updateText (table : String) (cells : Entries String) (column text : String) : String :=
  String.ofList (updateChars table cells column text)

/-- The cells that texts make in an update: a text that looks like a number becomes one. -/
def coerceCells (cells : Entries String) : Except Fault Row :=
  cells.mapM fun cell => (coerceNumber cell.2.toList).map (cell.1, ·)

/-- The statement that an update of texts is written for. -/
def coerceUpdate (table : String) (cells : Entries String) (column text : String) :
    Except Fault Statement := do
  let assignments ← coerceCells cells
  let value ← coerceNumber text.toList
  .ok (.update ⟨table, assignments, column, value⟩)

/-- The statement that a shape makes of the parts of an update. -/
def readUpdate (table : String) (list : List Char) (column : String) (literal : List Char) :
    Except Fault Statement := do
  let assignments ← Shape.readAssignments list
  let value ← readAssigned literal
  .ok (.update ⟨table, assignments, column, value⟩)

theorem getLast?_equation (column text : String) :
    (equation column text).getLast? = some singleQuote :=
  getLast?_append_of_eq_some _ (getLast?_append_of_eq_some _ (Spelling.getLast?_write_text text))

/-- The literal of a text is read as the text, or as the number that it looks like. -/
theorem readAssigned_quoted (blanks : List Char) (hblanks : ∀ c ∈ blanks, isBlank c = true)
    (text : String) : readAssigned (blanks ++ quoted text) = coerceNumber text.toList := by
  simp [readAssigned, quoted, Spelling.unquote_text blanks hblanks]

/-- An assignment is one item of a list, whatever its text holds. -/
theorem isItem_equation {column : String} (isName : IsName column) (text : String) :
    IsItem (equation column text) where
  through depth := by
    have hcolumn : ∀ c ∈ column.toList, isPlain c = true :=
      fun c hc => isPlain_of_isWord (isName.isWord_of_mem hc)
    have hsign : ∀ c ∈ " = ".toList, isPlain c = true := forall_mem_of_all (by decide)
    rw [equation, Nesting.through?_append _ (through?_plain hcolumn depth),
      Nesting.through?_append _ (through?_plain hsign depth)]
    exact (Spelling.text text).through?_write depth
  trimmed := by
    obtain ⟨c, later, hname, hword⟩ := isName.exists_cons
    apply stripWhile_eq_self
    · rw [equation, hname]
      rintro d ⟨⟩
      exact not_isBlank_of_isWord hword
    · rw [getLast?_equation]
      rintro d ⟨⟩
      decide +kernel
  nonempty := by simp [equation, quoted, Spelling.write]

/-- An assignment is taken apart at its own equals sign. -/
theorem splitAssignment?_equation {column : String} (isName : IsName column) (text : String) :
    Shape.splitAssignment? (equation column text) = some (column, ' ' :: quoted text) := by
  have hrun : ∀ c ∈ column.toList ++ [' '], (c != '=') = true := by
    intro c hc
    rcases List.mem_append.mp hc with hc | hc
    · exact bne_iff_ne.mpr (ne_of_isWord (isName.isWord_of_mem hc) (by decide))
    · cases List.mem_singleton.mp hc
      decide
  have hequation : equation column text =
      (column.toList ++ [' ']) ++ '=' :: ' ' :: quoted text := by simp [equation]
  have hspace : ∀ c ∈ [' '], isBlank c = true := forall_mem_of_all (by decide +kernel)
  have hbare := isName.bareName_append hspace
  rw [Shape.splitAssignment?, hequation, takeWhile_run hrun (bne_self_eq_false '='),
    dropWhile_run hrun (bne_self_eq_false '='), hbare, String.ofList_toList]
  rfl

/-- Assignments do not begin with white space. -/
theorem assignmentList_eq_cons {cells : Entries String}
    (areNames : ∀ name ∈ cells.keys, IsName name) (hcells : cells ≠ []) :
    ∃ c later, assignmentList cells = c :: later ∧ isBlank c = false := by
  cases cells with
  | nil => exact absurd rfl hcells
  | cons cell rest =>
      obtain ⟨c, later, hname, hword⟩ := (areNames cell.1 List.mem_cons_self).exists_cons
      obtain ⟨more, hlist⟩ := commaList_cons (equation cell.1 cell.2)
        (rest.map fun cell => equation cell.1 cell.2)
      refine ⟨c, later ++ (" = ".toList ++ quoted cell.2) ++ more, ?_, not_isBlank_of_isWord hword⟩
      rw [assignmentList, List.map_cons, hlist, equation, hname]
      rfl

/-- Cells are coerced under their own columns. -/
theorem keys_of_coerceCells {cells : Entries String} {row : Row} (h : coerceCells cells = .ok row) :
    row.keys = cells.keys := by
  induction cells generalizing row with
  | nil =>
      cases h
      rfl
  | cons cell rest ih =>
      obtain ⟨first, others, hfirst, hothers, rfl⟩ := mapM_cons_eq_ok_iff.mp h
      obtain ⟨value, -, rfl⟩ := map_eq_ok_iff.mp hfirst
      exact congrArg (List.cons cell.1) (ih hothers)

/-- Written assignments are read as the cells that their texts make. -/
theorem readAssignments_assignmentList {cells : Entries String}
    (areNames : ∀ name ∈ cells.keys, IsName name) (distinct : cells.keys.Nodup)
    (hcells : cells ≠ []) :
    Shape.readAssignments (assignmentList cells) = coerceCells cells := by
  have isName : ∀ cell ∈ cells, IsName cell.1 :=
    fun cell hcell => areNames cell.1 (List.mem_map_of_mem hcell)
  have hpieces : splitValues (assignmentList cells) =
      cells.map fun cell => equation cell.1 cell.2 := by
    refine splitFrom_commaList (by simpa using hcells) ?_ (by simp)
    intro item hitem
    obtain ⟨cell, hcell, rfl⟩ := List.mem_map.mp hitem
    exact isItem_equation (isName cell hcell) cell.2
  have hsplit : (cells.map fun cell => equation cell.1 cell.2).filterMap Shape.splitAssignment? =
      cells.map fun cell => (cell.1, ' ' :: quoted cell.2) := by
    rw [List.filterMap_map]
    apply List.filterMap_eq_map_iff_forall_eq_some.mpr
    intro cell hcell
    exact splitAssignment?_equation (isName cell hcell) cell.2
  have hliteral : ∀ text, readAssigned (' ' :: quoted text) = coerceNumber text.toList :=
    readAssigned_quoted [' '] (forall_mem_of_all (by decide +kernel))
  simp only [Shape.readAssignments, hpieces, hsplit, List.mapM_map, Function.comp_def, hliteral]
  rw [← coerceCells]
  cases hrow : coerceCells cells with
  | error fault => rfl
  | ok row =>
      have hset : Entries.setAll [] row = row :=
        Entries.setAll_of_distinct [] (by rw [keys_of_coerceCells hrow]; exact distinct)
      rw [bind_ok, hset]

namespace Shape

/-- A written predicate is recognised. -/
theorem takePredicate?_equation {column : String} (isName : IsName column) (text : String) :
    takePredicate? (" WHERE ".toList ++ equation column text) = some (column, quoted text) := by
  have hkeyword : (afterBlanks? (" WHERE ".toList ++ equation column text)).bind
      (afterPhrase? ["where"]) = some (' ' :: (column.toList ++ ' ' :: '=' :: ' ' :: quoted text)) :=
    rfl
  have hsign : (afterChar? '=' (trimStart (' ' :: '=' :: ' ' :: quoted text))).map trimStart =
      some (quoted text) := rfl
  have hnonempty : (quoted text).isEmpty = false := rfl
  simp only [takePredicate?, hkeyword, Option.bind_eq_bind, Option.bind_some,
    isName.takeSpacedName?, hsign, hnonempty, Bool.false_eq_true, if_false]

/-- A written predicate holds no other one, unless its text does. -/
theorem cutAtPredicate?_equation {column text : String} (isName : IsName column)
    (hquiet : cutAtPredicate? (quoted text) = none) :
    cutAtPredicate? (" WHERE ".toList ++ equation column text) =
      some ([], column, quoted text) := by
  have hliteral : cutAtPredicate? (' ' :: quoted text) = none :=
    cutAtPredicate?_cons_eq_none rfl hquiet
  have hsign : cutAtPredicate? ('=' :: ' ' :: quoted text) = none :=
    @cutAtPredicate?_append_eq_none ['='] _ (forall_mem_of_all (by decide +kernel)) hliteral
  have hspace : cutAtPredicate? (' ' :: '=' :: ' ' :: quoted text) = none :=
    cutAtPredicate?_cons_eq_none rfl hsign
  have hcolumn : cutAtPredicate? (column.toList ++ ' ' :: '=' :: ' ' :: quoted text) = none :=
    cutAtPredicate?_append_eq_none
      (fun c hc => not_isBlank_of_isWord (isName.isWord_of_mem hc)) hspace
  have hname : cutAtPredicate? (' ' :: (column.toList ++ ' ' :: '=' :: ' ' :: quoted text)) = none :=
    cutAtPredicate?_cons_eq_none (takePredicate?_name isName _) hcolumn
  have hkeyword : cutAtPredicate? ("WHERE".toList ++
      ' ' :: (column.toList ++ ' ' :: '=' :: ' ' :: quoted text)) = none :=
    cutAtPredicate?_append_eq_none (forall_mem_of_all (by decide +kernel)) hname
  have hfirst := takePredicate?_equation isName text
  have hwritten : " WHERE ".toList ++ equation column text =
      ' ' :: ("WHERE".toList ++ ' ' :: (column.toList ++ ' ' :: '=' :: ' ' :: quoted text)) := rfl
  rw [hwritten] at hfirst ⊢
  rw [cutAtPredicate?, hkeyword, hfirst]
  rfl

/-- The assignments of an update end where its last predicate begins. -/
theorem takeAssignments?_assignmentList {cells : Entries String}
    (areNames : ∀ name ∈ cells.keys, IsName name) (hcells : cells ≠ []) {text before : List Char}
    {predicate : String × List Char} (hcut : cutAtPredicate? text = some (before, predicate)) :
    takeAssignments? (' ' :: (assignmentList cells ++ text)) =
      some (assignmentList cells ++ before, predicate) := by
  obtain ⟨c, later, hlist, hc⟩ := assignmentList_eq_cons areNames hcells
  have hlater := cutAtPredicate?_append later hcut
  have hspace : isBlank ' ' = true := by decide
  simp only [hlist, List.cons_append, takeAssignments?, hspace, hc, if_true, Bool.false_eq_true,
    if_false, Option.none_or, takeAssignments?.cutAfterOne?, hlater, Option.map_some]

end Shape

/-- A written update begins with a letter and ends with a quote, so nothing is stripped off it. -/
theorem strip_updateChars (table : String) (cells : Entries String) (column text : String) :
    Statement.strip (updateChars table cells column text) = updateChars table cells column text := by
  have hlast : (updateChars table cells column text).getLast? = some singleQuote := by
    have hpredicate := getLast?_append_of_eq_some " WHERE ".toList (getLast?_equation column text)
    exact getLast?_append_of_eq_some _ (getLast?_append_of_eq_some _
      (getLast?_append_of_eq_some _ (getLast?_append_of_eq_some _ hpredicate)))
  apply Statement.strip_eq_self
  · rintro c ⟨⟩
    decide +kernel
  · rw [hlast]
    rintro c ⟨⟩
    decide +kernel

/-- An update is read from the parts into which its last predicate cuts it. No shape that is tried before
that of updates begins with these letters. -/
theorem read_updateText {table column sought found : String} {cells : Entries String}
    {before literal : List Char} (isName : IsName table)
    (areNames : ∀ name ∈ cells.keys, IsName name) (hcells : cells ≠ [])
    (hcut : Shape.cutAtPredicate? (" WHERE ".toList ++ equation column sought) =
      some (before, found, literal)) :
    Statement.read (updateText table cells column sought) =
      readUpdate table (assignmentList cells ++ before) found literal := by
  let written := assignmentList cells ++ (" WHERE ".toList ++ equation column sought)
  have hkeyword : afterPhrase? ["update"] (updateChars table cells column sought) =
      some (' ' :: (table.toList ++ ' ' :: ("SET ".toList ++ written))) := rfl
  have hset : (afterBlanks? (' ' :: ("SET ".toList ++ written))).bind (afterPhrase? ["set"]) =
      some (' ' :: written) := rfl
  have htake := Shape.takeAssignments?_assignmentList areNames hcells hcut
  have hupdate : Shape.update (updateChars table cells column sought) =
      some (.ofExcept (readUpdate table (assignmentList cells ++ before) found literal)) := by
    simp only [Shape.update, hkeyword, Option.bind_eq_bind, Option.bind_some,
      isName.takeSpacedName?, hset, written, htake, readUpdate]
  have hothers : Statement.readWith Statement.shapes (updateChars table cells column sought) =
      Statement.readWith [Shape.update, Shape.delete] (updateChars table cells column sought) := rfl
  rw [Statement.read, updateText, String.toList_ofList, strip_updateChars, hothers,
    Statement.readWith_ofExcept hupdate, Option.getD_some]

/-- The literal that is left when a predicate begins inside another does not give the same value:
the text has an equals sign too many for it. -/
theorem readAssigned_ne_coerceNumber {sought found : String} {inside literal : List Char}
    (hcut : Shape.cutAtPredicate? (quoted sought) = some (inside, found, literal)) :
    readAssigned literal ≠ coerceNumber sought.toList := by
  obtain ⟨rest, hquoted, hpredicate⟩ := Shape.cutAtPredicate?_eq_some hcut
  have hless : literal.count '=' < sought.toList.count '=' :=
    calc literal.count '=' < rest.count '=' := Shape.count_lt_of_takePredicate? hpredicate
      _ ≤ (inside ++ rest).count '=' := (List.sublist_append_right inside rest).count_le '='
      _ = sought.toList.count '=' := by rw [← hquoted, quoted, Spelling.count_write_text]
  have hsign : '=' ∈ sought.toList := List.count_pos_iff.mp (Nat.zero_lt_of_lt hless)
  rw [coerceNumber_of_mem hsign, String.ofList_toList]
  intro hread
  exact absurd (count_le_of_readAssigned hread) (Nat.not_le_of_lt hless)

/-- An update of texts is read back as it was written if no predicate begins in the literal that is
looked for. If one does, the last of them is taken for the predicate of the update, and what stands
before it for the end of the last assignment; this is never what was written. -/
theorem updateText_reading (table column sought : String) (cells : Entries String)
    (isName : IsName table) (areNames : ∀ name ∈ cells.keys, IsName name)
    (distinct : cells.keys.Nodup) (hcells : cells ≠ []) (isColumn : IsName column) :
    ((∀ rest, rest <:+ quoted sought → Shape.takePredicate? rest = none) →
        Statement.read (updateText table cells column sought) =
          coerceUpdate table cells column sought) ∧
      ∀ inside found literal,
        Shape.cutAtPredicate? (quoted sought) = some (inside, found, literal) →
        Statement.read (updateText table cells column sought) =
            readUpdate table (assignmentList cells ++
              (" WHERE ".toList ++ (column.toList ++ (" = ".toList ++ inside)))) found literal ∧
          ∀ statement, coerceUpdate table cells column sought = .ok statement →
            Statement.read (updateText table cells column sought) ≠ .ok statement := by
  constructor
  · intro hquiet
    have hcut := Shape.cutAtPredicate?_equation isColumn
      (Shape.cutAtPredicate?_eq_none_iff.mpr hquiet)
    have hread := read_updateText isName areNames hcells hcut
    have hliteral : readAssigned (quoted sought) = coerceNumber sought.toList :=
      readAssigned_quoted [] (by simp) sought
    rw [hread, readUpdate, List.append_nil, readAssignments_assignmentList areNames distinct hcells,
      hliteral]
    rfl
  · intro inside found literal hcut
    have hread := read_updateText isName areNames hcells (Shape.cutAtPredicate?_append
      " WHERE ".toList (Shape.cutAtPredicate?_append column.toList
        (Shape.cutAtPredicate?_append " = ".toList hcut)))
    refine ⟨hread, ?_⟩
    intro statement hwritten hsame
    rw [hread, readUpdate] at hsame
    obtain ⟨_, _, hsame⟩ := bind_eq_ok_iff.mp hsame
    obtain ⟨value, hvalue, hsame⟩ := bind_eq_ok_iff.mp hsame
    rw [coerceUpdate] at hwritten
    obtain ⟨_, _, hwritten⟩ := bind_eq_ok_iff.mp hwritten
    obtain ⟨written, hmeant, hwritten⟩ := bind_eq_ok_iff.mp hwritten
    cases hsame
    cases hwritten
    exact readAssigned_ne_coerceNumber hcut (hvalue.trans hmeant.symm)

/-- Texts full of commas, quotes and keywords, and a number, are set where a text is looked for that
is followed by no name behind its keyword. -/
theorem updateText_reading_of_keywords :
    let cells : Entries String := [("a", "x', b = 'y' WHERE c = 'z"), ("where", "-7")]
    Statement.read (updateText "users" cells "name" "O'Neil, set where = where") =
      .ok (.update ⟨"users", [("a", .text "x', b = 'y' WHERE c = 'z"), ("where", .int (-7))],
        "name", .text "O'Neil, set where = where"⟩) := by
  intro cells
  have hreading := updateText_reading "users" "name" "O'Neil, set where = where" cells
    (by decide) (by decide) (by decide) (List.cons_ne_nil _ _) (by decide)
  have hquiet : Shape.cutAtPredicate? (quoted "O'Neil, set where = where") = none := by
    decide +kernel
  exact hreading.1 (Shape.cutAtPredicate?_eq_none_iff.mp hquiet)

/-- A predicate inside the text that is looked for becomes the predicate of the update: another
column is searched for another text, and the cell is set to a text that goes on behind its own. -/
theorem predicate_inside_text_is_taken :
    updateText "t" [("a", "1")] "b" "x where c = y" =
        "UPDATE t SET a = '1' WHERE b = 'x where c = y'" ∧
      coerceUpdate "t" [("a", "1")] "b" "x where c = y" =
        .ok (.update ⟨"t", [("a", .int 1)], "b", .text "x where c = y"⟩) ∧
      Statement.read (updateText "t" [("a", "1")] "b" "x where c = y") =
        .ok (.update ⟨"t", [("a", .text "'1' WHERE b = 'x")], "c", .text "y'"⟩) ∧
      Statement.read (updateText "t" [("a", "1")] "b" "x where c = y") ≠
        coerceUpdate "t" [("a", "1")] "b" "x where c = y" := by
  have hmeant : coerceUpdate "t" [("a", "1")] "b" "x where c = y" =
      .ok (.update ⟨"t", [("a", .int 1)], "b", .text "x where c = y"⟩) := rfl
  have hread : Statement.read (updateText "t" [("a", "1")] "b" "x where c = y") =
      .ok (.update ⟨"t", [("a", .text "'1' WHERE b = 'x")], "c", .text "y'"⟩) := rfl
  refine ⟨by decide +kernel, hmeant, hread, ?_⟩
  rw [hmeant, hread]
  intro heq
  cases heq

end MockSql
