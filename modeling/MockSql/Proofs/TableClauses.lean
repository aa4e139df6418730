/-
# Columns and table-level clauses

A table-level clause gives a key to a column that has none, or a reference; it leaves the rest of the
columns as it was read. So it does the same to columns of which one has another default, and neither are
the columns that are read behind that one changed by this.
-/

import Mathlib.Data.List.Forall2
import MockSql.Proofs.Coherence
import MockSql.Proofs.ColumnClauses

namespace MockSql

open MockSql.Text

namespace ColumnDefinition

/-- A column as a table-level clause leaves it: a key may be added, and a reference. -/
structure KeepsClauses (before after : ColumnDefinition) : Prop where
  name : after.name = before.name
  type : after.type = before.type
  nullable : after.nullable = before.nullable
  default : after.default = before.default
  autoIncrement : after.autoIncrement = before.autoIncrement
  key : before.key ≠ .none → after.key ≠ .none

theorem KeepsClauses.refl (column : ColumnDefinition) : KeepsClauses column column :=
  ⟨rfl, rfl, rfl, rfl, rfl, id⟩

theorem KeepsClauses.trans {before between after : ColumnDefinition}
    (first : KeepsClauses before between) (second : KeepsClauses between after) :
    KeepsClauses before after where
  name := second.name.trans first.name
  type := second.type.trans first.type
  nullable := second.nullable.trans first.nullable
  default := second.default.trans first.default
  autoIncrement := second.autoIncrement.trans first.autoIncrement
  key := second.key ∘ first.key

theorem applyClause_keeps (clause : List Char) (column : ColumnDefinition) :
    KeepsClauses column (applyClause clause column) := by
  rw [applyClause]
  split
  next => exact .refl column
  next =>
    split
    next =>
      refine ⟨rfl, rfl, rfl, rfl, rfl, fun hkey => ?_⟩
      simp [hkey]
    next =>
      split
      next => exact ⟨rfl, rfl, rfl, rfl, rfl, fun _ => by simp⟩
      next =>
        refine ⟨rfl, rfl, rfl, rfl, rfl, fun hkey => ?_⟩
        simp [hkey]

theorem modifyLast_keeps {edit : ColumnDefinition → ColumnDefinition}
    (hedit : ∀ column, KeepsClauses column (edit column)) (name : String)
    (columns : List ColumnDefinition) :
    List.Forall₂ KeepsClauses columns (modifyLast name edit columns) := by
  induction columns with
  | nil => exact .nil
  | cons column rest ih =>
      rw [modifyLast]
      split
      next => exact .cons (hedit column) (List.forall₂_same.mpr fun other _ => .refl other)
      next => exact .cons (.refl column) ih

theorem addClause_keeps (columns : List ColumnDefinition) (clause : List Char) :
    List.Forall₂ KeepsClauses columns (addClause columns clause) := by
  rw [addClause]
  split
  next name _ => exact modifyLast_keeps (applyClause_keeps clause) name columns
  next => exact List.forall₂_same.mpr fun column _ => .refl column

theorem keeps_trans {first between last : List ColumnDefinition}
    (earlier : List.Forall₂ KeepsClauses first between)
    (later : List.Forall₂ KeepsClauses between last) : List.Forall₂ KeepsClauses first last := by
  induction earlier generalizing last with
  | nil => exact later
  | cons keeps _ ih =>
      cases later with
      | cons keeps' later => exact .cons (keeps.trans keeps') (ih later)

theorem foldl_addClause_keeps (clauses : List (List Char)) (columns : List ColumnDefinition) :
    List.Forall₂ KeepsClauses columns (clauses.foldl addClause columns) := by
  induction clauses generalizing columns with
  | nil => exact List.forall₂_same.mpr fun column _ => .refl column
  | cons clause rest ih => exact keeps_trans (addClause_keeps columns clause) (ih _)

theorem getElem?_keeps {first last : List ColumnDefinition} {index : Nat} {column : ColumnDefinition}
    (keeps : List.Forall₂ KeepsClauses first last) (hcolumn : first[index]? = some column) :
    ∃ after, last[index]? = some after ∧ KeepsClauses column after := by
  induction keeps generalizing index with
  | nil => simp at hcolumn
  | cons keeps _ ih =>
      cases index with
      | zero =>
          cases hcolumn
          exact ⟨_, rfl, keeps⟩
      | succ index => exact ih hcolumn

/-- What table-level clauses leave of a column, they leave of all columns. -/
theorem map_keeps {α : Type} {view : ColumnDefinition → α}
    (hkeeps : ∀ {before after}, KeepsClauses before after → view after = view before)
    {first last : List ColumnDefinition} (keeps : List.Forall₂ KeepsClauses first last) :
    last.map view = first.map view := by
  induction keeps with
  | nil => rfl
  | cons keeps _ ih => rw [List.map_cons, List.map_cons, ih, hkeeps keeps]

theorem haveKey_addClause (columns : List ColumnDefinition) (clause : List Char) :
    haveKey (addClause columns clause) = haveKey columns := by
  have hcount : ∀ columns : List ColumnDefinition,
      haveKey columns = decide (0 < primaryCount columns) := by
    intro columns
    rw [haveKey, primaryCount, Bool.eq_iff_iff, List.any_eq_true, decide_eq_true_iff,
      List.countP_pos_iff]
  rw [hcount, hcount, primaryCount_addClause]

theorem haveKey_foldl_addClause (clauses : List (List Char)) (columns : List ColumnDefinition) :
    haveKey (clauses.foldl addClause columns) = haveKey columns := by
  induction clauses generalizing columns with
  | nil => rfl
  | cons clause rest ih => rw [List.foldl_cons, ih, haveKey_addClause]

/-- The fragments of some pieces. -/
def fragmentsOf (pieces : List (List Char)) : List (List Char) :=
  (pieces.map trim).filter (!·.isEmpty)

/-- The fragments of some pieces that are columns. -/
def columnsOf (pieces : List (List Char)) : List (List Char) :=
  (fragmentsOf pieces).filter (not ∘ isTableClause)

/-- The fragments of some pieces that are table-level clauses. -/
def clausesOf (pieces : List (List Char)) : List (List Char) :=
  (fragmentsOf pieces).filter isTableClause

theorem readBody_eq (body : List Char) : readBody body =
    (clausesOf (cutBody body)).foldl addClause
      ((columnsOf (cutBody body)).foldl (addFragment (primaryName? body)) []) := by
  rw [readBody, List.partition_eq_filter_filter]
  rfl

/-- Only whether it is the name of a column is asked about the name of a primary key. -/
theorem addFragment_congr {primaryName other : Option String}
    (hnames : ∀ name : String, '\x27' ∉ name.toList → (some name == primaryName) = (some name == other)) :
    addFragment primaryName = addFragment other := by
  funext columns fragment
  have hread : readColumn? primaryName (haveKey columns) fragment =
      readColumn? other (haveKey columns) fragment := by
    rw [readColumn?_eq, readColumn?_eq]
    cases hheader : readHeader? fragment with
    | none => rfl
    | some found =>
        have hname := hnames found.1 (quote_not_mem_of_readHeader? hheader)
        simp only [Option.map_some, ofClauses, hname]
  rw [addFragment, addFragment, hread]

/-- What table-level clauses leave of the columns, and what does not depend on the primary key, is read of
the fragments that are columns. -/
theorem map_readBody {α : Type} {view : ColumnDefinition → α}
    (hkeeps : ∀ {before after}, KeepsClauses before after → view after = view before)
    (hkey : ∀ primaryName hasPrimary name type clauses,
      view (ofClauses primaryName hasPrimary name type clauses) =
        view (ofClauses none false name type clauses)) (body : List Char) :
    (readBody body).map view = (columnsOf (cutBody body)).filterMap fun fragment =>
      (readHeader? fragment).map fun (name, type, clauses) =>
        view (ofClauses none false name type clauses) := by
  have hfold : ∀ (fragments : List (List Char)) (columns : List ColumnDefinition),
      (fragments.foldl (addFragment (primaryName? body)) columns).map view =
        columns.map view ++ fragments.filterMap fun fragment =>
          (readHeader? fragment).map fun (name, type, clauses) =>
            view (ofClauses none false name type clauses) := by
    intro fragments
    induction fragments with
    | nil => simp
    | cons fragment rest ih =>
        intro columns
        rw [List.foldl_cons, ih, addFragment, readColumn?_eq]
        cases hheader : readHeader? fragment with
        | none => simp [hheader]
        | some found => simp [hheader, hkey]
  rw [readBody_eq, map_keeps hkeeps (foldl_addClause_keeps _ _), hfold]
  rfl

/-- What is read of a column first. -/
def header (column : ColumnDefinition) : String × String :=
  (column.name, column.type)

/-- The names and the types of a table's columns are those of the fragments that are columns. -/
theorem map_header_readBody (body : List Char) : (readBody body).map header =
    (columnsOf (cutBody body)).filterMap fun fragment =>
      (readHeader? fragment).map fun (name, type, _) => (name, type) :=
  map_readBody (fun keeps => by rw [header, keeps.name, keeps.type, header])
    (fun _ _ _ _ _ => rfl) body

/-- A column with another text as its default. -/
def withDefault (text : List Char) (column : ColumnDefinition) : ColumnDefinition :=
  { column with default := some (String.ofList text) }

variable {columns : List ColumnDefinition} {index : Nat}
  {change : ColumnDefinition → ColumnDefinition} {text : List Char}

theorem any_modify {test : ColumnDefinition → Bool} (htest : ∀ column, test (change column) = test column)
    (columns : List ColumnDefinition) (index : Nat) :
    (columns.modify index change).any test = columns.any test := by
  induction columns generalizing index with
  | nil => simp
  | cons column rest ih => cases index <;> simp [htest, ih]

theorem modify_append_of_lt (hindex : index < columns.length) (later : List ColumnDefinition) :
    (columns ++ later).modify index change = columns.modify index change ++ later := by
  induction columns generalizing index with
  | nil => cases hindex
  | cons column rest ih =>
      cases index with
      | zero => rfl
      | succ index => simpa using ih (by simpa using hindex)

/-- Columns that are added do not depend on how one before them is changed, if its key stays. -/
theorem addFragment_modify {primaryName : Option String}
    (hkey : ∀ column, (change column).key = column.key) (hindex : index < columns.length)
    (fragment : List Char) : addFragment primaryName (columns.modify index change) fragment =
      (addFragment primaryName columns fragment).modify index change := by
  have hhave : haveKey (columns.modify index change) = haveKey columns :=
    any_modify (fun column => by rw [hkey]) columns index
  rw [addFragment, addFragment, hhave]
  cases readColumn? primaryName (haveKey columns) fragment with
  | none => rfl
  | some column => exact (modify_append_of_lt hindex [column]).symm

theorem isPrefix_addFragment (primaryName : Option String) (columns : List ColumnDefinition)
    (fragment : List Char) : columns <+: addFragment primaryName columns fragment := by
  rw [addFragment]
  split
  next column _ => exact List.prefix_append columns [column]
  next => exact List.prefix_rfl

theorem isPrefix_foldl_addFragment (primaryName : Option String) (fragments : List (List Char))
    (columns : List ColumnDefinition) : columns <+: fragments.foldl (addFragment primaryName) columns := by
  induction fragments generalizing columns with
  | nil => exact List.prefix_rfl
  | cons fragment rest ih => exact (isPrefix_addFragment primaryName columns fragment).trans (ih _)

theorem foldl_addFragment_modify {primaryName : Option String}
    (hkey : ∀ column, (change column).key = column.key) (hindex : index < columns.length)
    (fragments : List (List Char)) :
    fragments.foldl (addFragment primaryName) (columns.modify index change) =
      (fragments.foldl (addFragment primaryName) columns).modify index change := by
  induction fragments generalizing columns with
  | nil => rfl
  | cons fragment rest ih =>
      have hlater := (isPrefix_addFragment primaryName columns fragment).length_le
      rw [List.foldl_cons, List.foldl_cons, addFragment_modify hkey hindex, ih (by omega)]

theorem modifyLast_modify {edit : ColumnDefinition → ColumnDefinition}
    (hname : ∀ column, (change column).name = column.name)
    (hedit : ∀ column, edit (change column) = change (edit column)) (name : String)
    (columns : List ColumnDefinition) (index : Nat) :
    modifyLast name edit (columns.modify index change) =
      (modifyLast name edit columns).modify index change := by
  induction columns generalizing index with
  | nil => simp [modifyLast]
  | cons column rest ih =>
      have hany : ∀ index, (rest.modify index change).any (·.name == name) = rest.any (·.name == name) :=
        any_modify (fun column => by rw [hname]) rest
      cases index with
      | zero =>
          rw [List.modify_zero_cons, modifyLast, modifyLast, hname]
          split
          next => rw [hedit, List.modify_zero_cons]
          next => rw [List.modify_zero_cons]
      | succ index =>
          rw [List.modify_succ_cons, modifyLast, modifyLast, hany]
          split
          next => rw [List.modify_succ_cons]
          next => rw [List.modify_succ_cons, ih]

/-- A table-level clause does the same to columns of which one has another default. -/
theorem addClause_withDefault (columns : List ColumnDefinition) (index : Nat) (clause : List Char) :
    addClause (columns.modify index (withDefault text)) clause =
      (addClause columns clause).modify index (withDefault text) := by
  have hname : ∀ column : ColumnDefinition, (withDefault text column).name = column.name :=
    fun _ => rfl
  have hedit : ∀ column,
      applyClause clause (withDefault text column) = withDefault text (applyClause clause column) := by
    intro column
    rw [applyClause, applyClause, apply_ite (withDefault text), apply_ite (withDefault text),
      apply_ite (withDefault text)]
    rfl
  rw [addClause, addClause]
  cases clauseTarget? clause with
  | none => rfl
  | some name => exact modifyLast_modify hname hedit name columns index

theorem foldl_addClause_withDefault (clauses : List (List Char)) (columns : List ColumnDefinition)
    (index : Nat) : clauses.foldl addClause (columns.modify index (withDefault text)) =
      (clauses.foldl addClause columns).modify index (withDefault text) := by
  induction clauses generalizing columns with
  | nil => rfl
  | cons clause rest ih => rw [List.foldl_cons, List.foldl_cons, addClause_withDefault, ih]

end ColumnDefinition

end MockSql
