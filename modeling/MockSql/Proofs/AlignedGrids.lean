/-
# Grids are aligned and lose nothing

The grid of some rows is a header, a rule and one line for each row. All lines have one length, and in
all of them a column begins at the same place: cut there, the header gives the names of the columns and
every other line but the rule the texts of its row's cells, filled up with spaces. A column is as wide as
the longest of its texts. There is no grid if a cell to show is an integer that cannot be written.
-/

import Mathlib.Algebra.GroupWithZero.Nat
import Mathlib.Data.List.Forall2
import Mathlib.Order.Bounds.Defs
import MockSql.Grid
import MockSql.Proofs.Printable

namespace MockSql

/-- Only an integer with too many digits shows nothing. -/
theorem Value.exists_cellText_iff {value : Value} :
    (∃ text, value.cellText = .ok text) ↔ value.isPrintable = true := by
  cases value with
  | null => exact ⟨fun _ => rfl, fun _ => ⟨_, rfl⟩⟩
  | int n => exact @exists_toText_iff (.int n)
  | bool | double | text => exact ⟨fun _ => rfl, fun _ => ⟨_, rfl⟩⟩

/-- So what has a text is told by the size of integers. -/
theorem Value.exists_cellText_iff_natAbs {value : Value} :
    (∃ text, value.cellText = .ok text) ↔
      ∀ n, value = .int n → n.natAbs < Nat.pow 10 Number.digitLimit := by
  rw [exists_cellText_iff]
  cases value with
  | int n =>
      refine Number.isPrintable_iff.trans ⟨?_, fun h => h n rfl⟩
      rintro hn m heq
      cases heq
      exact hn
  | null | bool | double | text => exact iff_of_true rfl (by simp)

theorem Value.cellText_ne_ok {n : Nat} (huge : Nat.pow 10 Number.digitLimit ≤ n) {text : String} :
    (Value.int n).cellText ≠ .ok text := by
  intro htext
  have printable := Number.isPrintable_iff.mp (exists_cellText_iff.mp ⟨text, htext⟩)
  rw [Int.natAbs_natCast] at printable
  exact Nat.not_lt.mpr huge printable

theorem Value.cellText_eq_error {value : Value} {fault : Fault} (h : value.cellText = .error fault) :
    fault = .unwritableInteger := by
  cases value with
  | int n =>
      simp only [cellText, toText, intText] at h
      split at h <;> cases h
      rfl
  | null | bool | double | text => cases h

namespace Grid

/-- Where a column begins in a line: behind the columns before it, each with a divider. -/
def offset (widths : List Nat) (i : Nat) : Nat :=
  ((widths.take i).map (· + 3)).sum

/-- The length of all columns with the dividers between them. -/
def total (widths : List Nat) : Nat :=
  widths.sum + 3 * (widths.length - 1)

/-- A line shows cells at their widths: where a column begins there is its cell, filled up with spaces,
and then a divider unless the column is the last. -/
structure Shows (widths : List Nat) (cells : List String) (line : List Char) : Prop where
  count : cells.length = widths.length
  length : line.length = total widths
  cell : ∀ (i width : Nat) (cell : String), widths[i]? = some width → cells[i]? = some cell →
    ∃ spaces, (line.drop (offset widths i)).take width = cell.toList ++ List.replicate spaces ' '
  divider : ∀ i width : Nat, widths[i]? = some width → i + 1 < widths.length →
    (line.drop (offset widths i + width)).take 3 = " | ".toList

section Blocks

variable {divider : List Char} {blocks : List (List Char)}

/-- Each of some blocks with dividers between them stands at its offset, and there is a divider behind
it unless it is the last. -/
theorem exists_split_intercalate (hdivider : divider.length = 3) {i : Nat} {block : List Char}
    (hblock : blocks[i]? = some block) :
    ∃ front back, divider.intercalate blocks = front ++ (block ++ back) ∧
      front.length = offset (blocks.map List.length) i ∧
      (i + 1 < blocks.length → ∃ rest, back = divider ++ rest) := by
  induction blocks generalizing i with
  | nil => cases hblock
  | cons first rest ih =>
      cases i with
      | zero =>
          obtain rfl : first = block := by simpa using hblock
          cases rest with
          | nil => exact ⟨[], [], by simp, rfl, fun hlt => absurd hlt (by simp)⟩
          | cons next others =>
              refine ⟨[], divider ++ divider.intercalate (next :: others), ?_, rfl, fun _ => ⟨_, rfl⟩⟩
              rw [List.intercalate_cons_cons, List.nil_append, List.append_assoc]
      | succ i =>
          have hrest : rest[i]? = some block := by simpa using hblock
          have hne : rest ≠ [] := by
            rintro rfl
            cases hrest
          obtain ⟨front, back, hsplit, hlength, hback⟩ := ih hrest
          refine ⟨first ++ divider ++ front, back, ?_, ?_, fun hlt => hback (by simpa using hlt)⟩
          · simp only [List.intercalate_cons_of_ne_nil hne, hsplit, List.append_assoc]
          · simp [offset, hlength, hdivider, Nat.add_assoc]

theorem length_intercalate (hdivider : divider.length = 3) :
    (divider.intercalate blocks).length = total (blocks.map List.length) := by
  induction blocks with
  | nil => rfl
  | cons first rest ih =>
      cases rest with
      | nil => simp [total]
      | cons next others =>
          rw [List.intercalate_cons_cons, List.length_append, List.length_append, hdivider, ih]
          simp only [total, List.map_cons, List.sum_cons, List.length_cons]
          omega

end Blocks

/-! ## Lines -/

section Lines

variable {widths : List Nat} {cells : List String}

/-- The cells of a line, each filled up with spaces to its width. -/
def padded (widths : List Nat) (cells : List String) : List (List Char) :=
  List.zipWith (fun width cell => (pad width cell).toList) widths cells

theorem toList_line :
    (line widths cells).toList = [' ', '|', ' '].intercalate (padded widths cells) := by
  rw [line, String.toList_intercalate, List.map_zipWith]
  rfl

theorem toList_pad (width : Nat) (cell : String) :
    (pad width cell).toList = cell.toList ++ List.replicate (width - cell.length) ' ' := by
  simp [pad]

theorem length_padded (fits : List.Forall₂ (fun width cell => cell.length ≤ width) widths cells) :
    (padded widths cells).map List.length = widths := by
  induction fits with
  | nil => rfl
  | @cons width cell widths cells fit fits ih =>
      have hlength : (pad width cell).toList.length = width := by
        rw [toList_pad, List.length_append, List.length_replicate, String.length_toList]
        omega
      exact congrArg₂ List.cons hlength ih

/-- A line shows cells that are not longer than the widths. -/
theorem shows_line (fits : List.Forall₂ (fun width cell => cell.length ≤ width) widths cells) :
    Shows widths cells (line widths cells).toList := by
  have hlengths := length_padded fits
  have hsplit {i width : Nat} (hwidth : widths[i]? = some width) :
      ∃ cell front back, cells[i]? = some cell ∧
        (line widths cells).toList = front ++ ((pad width cell).toList ++ back) ∧
        front.length = offset widths i ∧ (pad width cell).toList.length = width ∧
        (i + 1 < widths.length → ∃ rest, back = [' ', '|', ' '] ++ rest) := by
    obtain ⟨hi, rfl⟩ := List.getElem?_eq_some_iff.mp hwidth
    have hcell : i < cells.length := fits.length_eq ▸ hi
    have hblock : (padded widths cells)[i]? = some (pad widths[i] cells[i]).toList :=
      List.getElem?_zipWith_eq_some.mpr ⟨_, _, hwidth, List.getElem?_eq_getElem hcell, rfl⟩
    obtain ⟨front, back, hline, hfront, hback⟩ :=
      @exists_split_intercalate [' ', '|', ' '] _ rfl _ _ hblock
    refine ⟨cells[i], front, back, List.getElem?_eq_getElem hcell, toList_line.trans hline,
      hlengths ▸ hfront, ?_, fun hlt => hback ?_⟩
    · have hlength := congrArg (·[i]?) hlengths
      simpa [hblock, hi] using hlength
    · rwa [← hlengths, List.length_map] at hlt
  refine ⟨fits.length_eq.symm, ?_, ?_, ?_⟩
  · rw [toList_line, length_intercalate rfl, hlengths]
  · intro i width cell hwidth hcell
    obtain ⟨other, front, back, hother, hline, hfront, hlength, -⟩ := hsplit hwidth
    obtain rfl : other = cell := Option.some.inj (hother.symm.trans hcell)
    refine ⟨width - other.length, ?_⟩
    rw [hline, ← hfront, List.drop_left, ← toList_pad]
    exact List.take_left' hlength
  · intro i width hwidth hlast
    obtain ⟨cell, front, back, -, hline, hfront, hlength, hback⟩ := hsplit hwidth
    obtain ⟨rest, rfl⟩ := hback hlast
    rw [hline, ← List.drop_drop, ← hfront, List.drop_left, List.drop_left' hlength]
    rfl

theorem length_rule : (rule widths).toList.length = total widths := by
  have hwidths : (widths.map fun width => List.replicate width '-').map List.length = widths := by
    simp [Function.comp_def]
  rw [rule, String.toList_intercalate, List.map_map]
  simp only [Function.comp_def, String.toList_ofList]
  rw [length_intercalate rfl, hwidths]

theorem not_mem_line (hcells : ∀ cell ∈ cells, '\n' ∉ cell.toList) :
    '\n' ∉ (line widths cells).toList := by
  intro h
  rw [toList_line] at h
  rcases Text.mem_intercalate h with hdivider | ⟨block, hblock, h⟩
  · exact absurd hdivider (by decide)
  · obtain ⟨i, hi⟩ := List.mem_iff_getElem?.mp hblock
    obtain ⟨width, cell, -, hcell, rfl⟩ := List.getElem?_zipWith_eq_some.mp hi
    rw [toList_pad, List.mem_append] at h
    rcases h with h | h
    · exact hcells cell (List.mem_of_getElem? hcell) h
    · exact absurd (List.eq_of_mem_replicate h) (by decide)

theorem not_mem_rule : '\n' ∉ (rule widths).toList := by
  intro h
  rw [rule, String.toList_intercalate] at h
  rcases Text.mem_intercalate h with hdivider | ⟨block, hblock, h⟩
  · exact absurd hdivider (by decide)
  · simp only [List.map_map, List.mem_map, Function.comp_def, String.toList_ofList] at hblock
    obtain ⟨width, -, rfl⟩ := hblock
    exact absurd (List.eq_of_mem_replicate h) (by decide)

/-- Lines without a line break are what their text is split into. -/
theorem splitOn_intercalate {lines : List String} (hlines : ∀ line ∈ lines, '\n' ∉ line.toList)
    (hsome : lines ≠ []) :
    ("\n".intercalate lines).toList.splitOn '\n' = lines.map String.toList := by
  rw [String.toList_intercalate]
  exact List.splitOn_intercalate '\n' (List.forall_mem_map.mpr hlines) (by simpa using hsome)

/-- The lines of a grid are what its text is split into, if no name and no text has a line break. -/
theorem splitOn_lines {rows : List Row} {names : List String} {texts : Row → List String}
    (hnames : ∀ name ∈ names, '\n' ∉ name.toList)
    (htexts : ∀ row ∈ rows, ∀ text ∈ texts row, '\n' ∉ text.toList) :
    ("\n".intercalate (line widths names :: rule widths ::
        rows.map fun row => line widths (texts row))).toList.splitOn '\n' =
      (line widths names).toList :: (rule widths).toList ::
        rows.map fun row => (line widths (texts row)).toList := by
  have hlines : ∀ text ∈ line widths names :: rule widths ::
      rows.map fun row => line widths (texts row), '\n' ∉ text.toList := by
    refine List.forall_mem_cons.mpr ⟨not_mem_line hnames,
      List.forall_mem_cons.mpr ⟨not_mem_rule, List.forall_mem_map.mpr ?_⟩⟩
    exact fun row hrow => not_mem_line (htexts row hrow)
  rw [splitOn_intercalate hlines (List.cons_ne_nil _ _), List.map_cons, List.map_cons, List.map_map]
  rfl

end Lines

/-- The lengths of the texts in a column: of its name and of the cells that it shows. -/
def textLengths (rows : List Row) (column : String) : Set Nat :=
  {length | length = column.length ∨
    ∃ row ∈ rows, ∃ text, (row.cell column).cellText = .ok text ∧ length = text.length}

theorem isGreatest_width (header : String) (cells : List String) :
    IsGreatest {length | length = header.length ∨ ∃ cell ∈ cells, length = cell.length}
      (width header cells) := by
  have hfold : ∀ (cells : List String) (start : Nat),
      IsGreatest {length | length = start ∨ ∃ cell ∈ cells, length = cell.length}
        (cells.foldl (fun widest cell => max widest cell.length) start) := by
    intro cells
    induction cells with
    | nil =>
        intro start
        refine ⟨.inl rfl, ?_⟩
        rintro length (rfl | ⟨cell, hcell, -⟩)
        · exact Nat.le_refl _
        · cases hcell
    | cons first rest ih =>
        intro start
        obtain ⟨hmem, hle⟩ := ih (max start first.length)
        constructor
        · rcases hmem with hmem | ⟨cell, hcell, hlength⟩
          · rw [List.foldl_cons, hmem]
            rcases Nat.le_total start first.length with h | h
            · exact .inr ⟨first, List.mem_cons_self, Nat.max_eq_right h⟩
            · exact .inl (Nat.max_eq_left h)
          · exact .inr ⟨cell, List.mem_cons_of_mem _ hcell, hlength⟩
        · have hmax := hle (.inl rfl)
          rintro length (rfl | ⟨cell, hcell, rfl⟩)
          · exact Nat.le_trans (Nat.le_max_left _ _) hmax
          · rcases List.mem_cons.mp hcell with rfl | hcell
            · exact Nat.le_trans (Nat.le_max_right _ _) hmax
            · exact hle (.inr ⟨cell, hcell, rfl⟩)
  exact hfold cells header.length

/-! ## Grids -/

section Grids

variable {rows : List Row} {listed : List String}

/-- The text that a row shows in a column, if there is one. -/
def shown (row : Row) (column : String) : String :=
  (row.cell column).cellText.toOption.getD ""

theorem cellText_eq_shown {row : Row} {column : String}
    (h : ∃ text, (row.cell column).cellText = .ok text) :
    (row.cell column).cellText = .ok (shown row column) := by
  obtain ⟨text, htext⟩ := h
  simp [shown, htext, Except.toOption]

/-- Rows whose cells all have texts have a grid. -/
theorem render_of_shown (hrows : rows ≠ []) (hshown : ∀ row ∈ rows,
      ∀ column ∈ shownColumns rows listed,
        (row.cell column).cellText = .ok (shown row column)) :
    let columns := shownColumns rows listed
    let widths := columns.map fun column => width column (rows.map (shown · column))
    render rows listed = .ok ("\n".intercalate (line widths columns :: rule widths ::
      rows.map fun row => line widths (columns.map (shown row)))) := by
  intro columns widths
  have hwidths : (columns.mapM fun column => do
      .ok (width column (← cellTexts rows column)) : Except Fault (List Nat)) = .ok widths := by
    refine mapM_eq_ok_map fun column hcolumn => ?_
    have hcells : cellTexts rows column = .ok (rows.map (shown · column)) :=
      mapM_eq_ok_map fun row hrow => hshown row hrow column hcolumn
    rw [hcells, bind_ok]
  have hbody : cellRows rows columns = .ok (rows.map fun row => columns.map (shown row)) :=
    mapM_eq_ok_map fun row hrow => mapM_eq_ok_map (hshown row hrow)
  have hsome : rows.isEmpty = false := by simpa using hrows
  rw [render, hsome]
  simp only [Bool.false_eq_true, if_false]
  rw [hwidths, bind_ok, hbody, bind_ok, List.map_map]
  rfl

/-- Rows with a cell that has no text have no grid. -/
theorem render_eq_error {row : Row} {column : String} (hrow : row ∈ rows)
    (hcolumn : column ∈ shownColumns rows listed)
    (unwritable : ∀ text, (row.cell column).cellText ≠ .ok text) :
    render rows listed = .error .unwritableInteger := by
  have only (row : Row) (column : String) (fault : Fault)
      (h : (row.cell column).cellText = .error fault) : fault = .unwritableInteger :=
    Value.cellText_eq_error h
  have hcells : cellTexts rows column = .error .unwritableInteger := by
    cases hcell : (row.cell column).cellText with
    | ok text => exact absurd hcell (unwritable text)
    | error fault =>
        exact mapM_eq_error (fun other _ => only other column) hrow (only _ _ _ hcell ▸ hcell)
  have hwidths : ((shownColumns rows listed).mapM fun column => do
      Except.ok (width column (← cellTexts rows column))) = .error .unwritableInteger := by
    refine mapM_eq_error (fun other _ fault hfault => ?_) hcolumn (by rw [hcells, bind_error])
    cases hother : cellTexts rows other with
    | ok cells =>
        rw [hother, bind_ok] at hfault
        cases hfault
    | error fault' =>
        rw [hother, bind_error] at hfault
        cases hfault
        obtain ⟨failing, -, hfailing⟩ := exists_of_mapM_eq_error hother
        exact only failing other _ hfailing
  have hsome : rows.isEmpty = false := by
    simpa using List.ne_nil_of_mem hrow
  rw [render, hsome]
  simp only [Bool.false_eq_true, if_false]
  rw [hwidths, bind_error]

/-- A column is as wide as its longest text. -/
theorem isGreatest_textLengths (hshown : ∀ row ∈ rows, ∀ column ∈ shownColumns rows listed,
      (row.cell column).cellText = .ok (shown row column)) {column : String}
    (hcolumn : column ∈ shownColumns rows listed) :
    IsGreatest (textLengths rows column) (width column (rows.map (shown · column))) := by
  have hlengths : textLengths rows column = {length | length = column.length ∨
      ∃ cell ∈ rows.map (shown · column), length = cell.length} := by
    ext length
    refine or_congr_right ⟨?_, ?_⟩
    · rintro ⟨row, hrow, text, htext, rfl⟩
      rw [hshown row hrow column hcolumn] at htext
      cases htext
      exact ⟨_, List.mem_map_of_mem hrow, rfl⟩
    · rintro ⟨cell, hcell, rfl⟩
      obtain ⟨row, hrow, rfl⟩ := List.mem_map.mp hcell
      exact ⟨row, hrow, _, hshown row hrow column hcolumn, rfl⟩
  rw [hlengths]
  exact isGreatest_width column _

/-- Rows have a grid unless a cell to show is an integer that cannot be written. If no name and no text
has a line break, then the lines of the grid are a header, a rule and one for each row, all of one
length; every column is as wide as the longest of its texts; and cut where the columns begin, the header
shows the names, and the line of a row its texts, filled up with spaces. -/
theorem grid_shows_rows (hrows : rows ≠ []) (listed : List String) :
    let columns := shownColumns rows listed
    (∀ value : Value, (∃ text, value.cellText = .ok text) ↔
      ∀ n, value = .int n → n.natAbs < Nat.pow 10 Number.digitLimit) ∧
    ((∃ row ∈ rows, ∃ column ∈ columns, ∀ text, (row.cell column).cellText ≠ .ok text) →
      render rows listed = .error .unwritableInteger) ∧
    ((∀ row ∈ rows, ∀ column ∈ columns, ∃ text, (row.cell column).cellText = .ok text) →
      (∀ column ∈ columns, '\n' ∉ column.toList) →
      (∀ row ∈ rows, ∀ column ∈ columns, ∀ text, (row.cell column).cellText = .ok text →
        '\n' ∉ text.toList) →
      ∃ text widths header rule body, render rows listed = .ok text ∧
        text.toList.splitOn '\n' = header :: rule :: body ∧ body.length = rows.length ∧
        (∀ line ∈ header :: rule :: body, line.length = total widths) ∧
        List.Forall₂ (fun column width => IsGreatest (textLengths rows column) width)
          columns widths ∧
        Shows widths columns header ∧
        List.Forall₂ (fun row line => ∃ cells, List.Forall₂ (fun column cell =>
          (row.cell column).cellText = .ok cell) columns cells ∧ Shows widths cells line)
          rows body) := by
  intro columns
  refine ⟨?_, ?_, ?_⟩
  · exact fun value => Value.exists_cellText_iff_natAbs
  · rintro ⟨row, hrow, column, hcolumn, unwritable⟩
    exact render_eq_error hrow hcolumn unwritable
  · intro htexts hnames hcells
    have hshown : ∀ row ∈ rows, ∀ column ∈ columns,
        (row.cell column).cellText = .ok (shown row column) :=
      fun row hrow column hcolumn => cellText_eq_shown (htexts row hrow column hcolumn)
    let widths := columns.map fun column => width column (rows.map (shown · column))
    have hwidths : ∀ column ∈ columns,
        IsGreatest (textLengths rows column) (width column (rows.map (shown · column))) :=
      fun column hcolumn => isGreatest_textLengths hshown hcolumn
    have hheader : Shows widths columns (line widths columns).toList := by
      refine shows_line (List.forall₂_map_left_iff.mpr (List.forall₂_same.mpr ?_))
      exact fun column hcolumn => (hwidths column hcolumn).2 (.inl rfl)
    have hbody : ∀ row ∈ rows,
        Shows widths (columns.map (shown row)) (line widths (columns.map (shown row))).toList := by
      intro row hrow
      refine shows_line (List.forall₂_map_left_iff.mpr (List.forall₂_map_right_iff.mpr
        (List.forall₂_same.mpr ?_)))
      intro column hcolumn
      exact (hwidths column hcolumn).2 (.inr ⟨row, hrow, _, hshown row hrow column hcolumn, rfl⟩)
    have hbreaks : ∀ row ∈ rows, ∀ text ∈ columns.map (shown row), '\n' ∉ text.toList :=
      fun row hrow => List.forall_mem_map.mpr fun column hcolumn =>
        hcells row hrow column hcolumn _ (hshown row hrow column hcolumn)
    refine ⟨_, widths, (line widths columns).toList, (rule widths).toList,
      rows.map fun row => (line widths (columns.map (shown row))).toList,
      render_of_shown hrows hshown, splitOn_lines hnames hbreaks, List.length_map _, ?_, ?_,
      hheader, ?_⟩
    · exact List.forall_mem_cons.mpr ⟨hheader.length, List.forall_mem_cons.mpr ⟨length_rule,
        List.forall_mem_map.mpr fun row hrow => (hbody row hrow).length⟩⟩
    · exact List.forall₂_map_right_iff.mpr (List.forall₂_same.mpr hwidths)
    · refine List.forall₂_map_right_iff.mpr (List.forall₂_same.mpr ?_)
      intro row hrow
      exact ⟨_, List.forall₂_map_right_iff.mpr (List.forall₂_same.mpr (hshown row hrow)),
        hbody row hrow⟩

/-- A column that is listed twice, and a row without a cell in it. -/
theorem grid_shows_rows_of_missing_cell :
    let rows : List Row := [[("a", .int 10), ("b", .text "x y")], [("b", .bool true)]]
    rows ≠ [] ∧ (∀ row ∈ rows, ∀ column ∈ ["a", "b", "a"], (row.cell column).isPrintable = true) ∧
      ∃ text widths header rule body, render rows ["a", "b", "a"] = .ok text ∧
        text = "a    | b    | a   \n-----+------+-----\n10   | x y  | 10  \nNULL | True | NULL" ∧
        text.toList.splitOn '\n' = header :: rule :: body ∧ Shows widths ["a", "b", "a"] header ∧
        List.Forall₂ (fun (row : Row) line => ∃ cells, List.Forall₂ (fun column cell =>
          (row.cell column).cellText = .ok cell) ["a", "b", "a"] cells ∧ Shows widths cells line)
          rows body := by
  intro rows
  have printable : ∀ row ∈ rows, ∀ column ∈ ["a", "b", "a"],
      (row.cell column).isPrintable = true := by
    decide +kernel
  have hcells : ∀ row ∈ rows, ∀ column ∈ ["a", "b", "a"],
      ((row.cell column).cellText.toOption.all fun text => !text.toList.contains '\n') = true := by
    decide +kernel
  obtain ⟨-, -, hgrid⟩ := @grid_shows_rows rows (by decide) ["a", "b", "a"]
  obtain ⟨text, widths, header, rule, body, hrender, hsplit, -, -, -, hheader, hbody⟩ :=
    hgrid (fun row hrow column hcolumn => Value.exists_cellText_iff.mpr
        (printable row hrow column hcolumn)) (by decide +kernel) (by
      intro row hrow column hcolumn text htext
      have hfree := hcells row hrow column hcolumn
      rw [htext] at hfree
      simpa [Except.toOption] using hfree)
  refine ⟨by decide, printable, text, widths, header, rule, body, hrender, ?_, hsplit, hheader,
    hbody⟩
  have hcomputed : render rows ["a", "b", "a"] = .ok
      "a    | b    | a   \n-----+------+-----\n10   | x y  | 10  \nNULL | True | NULL" := by
    decide +kernel
  exact Except.ok.inj (hrender.symm.trans hcomputed)

/-- An integer with more digits than can be written has no text, and rows that show it no grid. -/
theorem no_grid_of_huge_integer :
    let rows : List Row := [[("a", .int (Nat.pow 10 Number.digitLimit))]]
    rows ≠ [] ∧ (∀ column ∈ shownColumns rows ["a"], '\n' ∉ column.toList) ∧
      (∀ row ∈ rows, ∀ column ∈ shownColumns rows ["a"], ∀ text,
        (row.cell column).cellText = .ok text → '\n' ∉ text.toList) ∧
      ∀ text, render rows ["a"] ≠ .ok text := by
  intro rows
  have hcolumns : shownColumns rows ["a"] = ["a"] := rfl
  have unwritable : ∀ row ∈ rows, ∀ text, (row.cell "a").cellText ≠ .ok text := by
    intro row hrow text htext
    have hcell : row.cell "a" = .int (Nat.pow 10 Number.digitLimit) := by
      rw [List.mem_singleton.mp hrow]
      rfl
    exact Value.cellText_ne_ok (Nat.le_refl _) (hcell ▸ htext)
  refine ⟨List.cons_ne_nil _ _, by decide, ?_, ?_⟩
  · intro row hrow column hcolumn text htext
    obtain rfl := List.mem_singleton.mp (hcolumns ▸ hcolumn)
    exact absurd htext (unwritable row hrow text)
  · intro text hrender
    have hfault : render rows ["a"] = .error .unwritableInteger :=
      render_eq_error List.mem_cons_self List.mem_cons_self (unwritable _ List.mem_cons_self)
    rw [hfault] at hrender
    cases hrender

end Grids

end Grid

end MockSql
