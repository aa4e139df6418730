/-
# Integers that are read can be written

The limit on the digits that are read is the limit on the digits that are written, leading zeros
counted in reading only. So whatever a statement brings along can be written: the values of an
insertion and the assignments of an update.
-/

import MockSql.Proofs.Printable

namespace MockSql

open MockSql.Text

namespace Number

theorem digitValue?_lt {c : Char} {value : Nat} (h : digitValue? c = some value) : value < 10 := by
  obtain ⟨code, hcode, rfl⟩ := Option.map_eq_some_iff.mp h
  have hrange := List.find?_some hcode
  simp only [Bool.and_eq_true, decide_eq_true_eq] at hrange
  omega

theorem digitsFrom_lt (start : Nat) (digits : List Char) :
    digitsFrom start digits < (start + 1) * Nat.pow 10 digits.length := by
  induction digits generalizing start with
  | nil => exact Nat.lt_of_lt_of_eq (Nat.lt_succ_self start) (Nat.mul_one _).symm
  | cons c rest ih =>
      have hdigit : (digitValue? c).getD 0 < 10 := by
        cases hvalue : digitValue? c with
        | none => decide
        | some value => exact digitValue?_lt hvalue
      have hstart : start * 10 + (digitValue? c).getD 0 + 1 ≤ (start + 1) * 10 := by omega
      calc digitsFrom start (c :: rest)
          < (start * 10 + (digitValue? c).getD 0 + 1) * Nat.pow 10 rest.length := ih _
        _ ≤ (start + 1) * 10 * Nat.pow 10 rest.length := Nat.mul_le_mul_right _ hstart
        _ = (start + 1) * (Nat.pow 10 rest.length * 10) := by
          rw [Nat.mul_assoc, Nat.mul_comm 10]

/-- Some digits of any script denote a number below the power of ten that has one digit more. -/
theorem ofDigits_lt (digits : List Char) : ofDigits digits < Nat.pow 10 digits.length :=
  Nat.lt_of_lt_of_eq (digitsFrom_lt 0 digits) (Nat.one_mul _)

theorem natAbs_signed (negative : Bool) (n : Nat) : (signed negative n).natAbs = n := by
  cases negative <;> simp [signed]

end Number

namespace Literal

open Number

variable {text literal : List Char} {value : Value}

theorem readInt_isPrintable {negative : Bool} {digits : List Char} {n : Int}
    (h : readInt negative digits = .ok n) : isPrintable n = true := by
  unfold readInt at h
  split at h
  next => cases h
  next hshort =>
    cases h
    have hpower {m n : Nat} (hle : m ≤ n) : Nat.pow 10 m ≤ Nat.pow 10 n :=
      Nat.pow_le_pow_right (by decide) hle
    rw [isPrintable_iff, natAbs_signed]
    exact Nat.lt_of_lt_of_le (ofDigits_lt digits) (hpower (Nat.not_lt.mp hshort))

theorem coerceNumber_isPrintable (h : coerceNumber text = .ok value) :
    value.isPrintable = true := by
  simp only [coerceNumber] at h
  split at h
  next =>
    obtain ⟨n, hread, rfl⟩ := map_eq_ok_iff.mp h
    exact readInt_isPrintable hread
  next =>
    split at h
    next =>
      cases h
      rfl
    next =>
      cases h
      rfl

theorem leadingInt_isPrintable {n : Int} (h : leadingInt text = .ok (some n)) :
    isPrintable n = true := by
  simp only [leadingInt] at h
  split at h
  next => cases h
  next =>
    obtain ⟨m, hread, hm⟩ := map_eq_ok_iff.mp h
    cases hm
    exact readInt_isPrintable hread

theorem readInserted_isPrintable (h : readInserted literal = .ok value) :
    value.isPrintable = true := by
  unfold readInserted at h
  split at h
  next =>
    cases h
    rfl
  next =>
    split at h
    next =>
      cases h
      rfl
    next => exact coerceNumber_isPrintable h

theorem readAssigned_isPrintable (h : readAssigned literal = .ok value) :
    value.isPrintable = true := by
  simp only [readAssigned] at h
  split at h
  next =>
    cases h
    rfl
  next => exact coerceNumber_isPrintable h

end Literal

namespace Row

variable {row changes : Row}

theorem IsPrintable.set (printable : row.IsPrintable) (column : String) {value : Value}
    (hvalue : value.isPrintable = true) : IsPrintable (Entries.set row column value) := by
  intro cell hcell
  rcases Entries.mem_of_mem_set hcell with rfl | hstored
  · exact hvalue
  · exact printable cell hstored

theorem IsPrintable.setAll (printable : row.IsPrintable) (hchanges : changes.IsPrintable) :
    IsPrintable (Entries.setAll row changes) := by
  intro cell hcell
  rcases Entries.mem_of_mem_setAll hcell with hchanged | hstored
  · exact hchanges cell hchanged
  · exact printable cell hstored

theorem IsPrintable.erase (printable : row.IsPrintable) (column : String) :
    IsPrintable (Entries.erase row column) :=
  fun cell hcell => printable cell (Entries.mem_of_mem_erase hcell)

/-- A row that begins with an integer, which no later cell replaces, can be written if the integer
can and the other cells can. -/
theorem isPrintable_numbered {key : String} {id : Int} {cells : Row} (hfree : key ∉ cells.keys)
    (hcells : cells.IsPrintable) :
    IsPrintable (Entries.setAll [(key, .int id)] cells) ↔ Number.isPrintable id = true := by
  constructor
  · intro printable
    have hget := Entries.get?_setAll_of_not_mem [(key, Value.int id)] hfree
    rw [Entries.get?_cons_self] at hget
    exact printable _ (Entries.mem_of_get? hget)
  · intro hid
    exact IsPrintable.setAll (List.forall_mem_singleton.mpr hid) hcells

/-- What a row has under a column is one of its cells, or nothing. -/
theorem IsPrintable.cell (printable : row.IsPrintable) (column : String) :
    (row.cell column).isPrintable = true := by
  unfold Row.cell
  cases hget : row.get? column with
  | none => rfl
  | some value => exact printable _ (Entries.mem_of_get? hget)

/-- Columns with values that can be written, or with none, are a row that can be written. -/
theorem isPrintable_pairCells (columns : List String) {values : List Value}
    (hvalues : ∀ value ∈ values, value.isPrintable = true) :
    (Table.pairCells columns values).IsPrintable := by
  induction columns generalizing values with
  | nil => exact fun cell hcell => nomatch hcell
  | cons column rest ih =>
      cases values with
      | nil => exact List.forall_mem_cons.mpr ⟨rfl, ih hvalues⟩
      | cons value later =>
          obtain ⟨hvalue, hlater⟩ := List.forall_mem_cons.mp hvalues
          exact List.forall_mem_cons.mpr ⟨hvalue, ih hlater⟩

end Row

theorem Shape.readAssignments_isPrintable {list : List Char} {assignments : Row}
    (h : readAssignments list = .ok assignments) : assignments.IsPrintable := by
  obtain ⟨cells, hcells, h⟩ := bind_eq_ok_iff.mp h
  cases h
  refine Row.IsPrintable.setAll (fun cell hcell => nomatch hcell) ?_
  intro cell hcell
  obtain ⟨⟨column, literal⟩, -, hread⟩ := exists_of_mem_mapM hcells hcell
  obtain ⟨value, hvalue, rfl⟩ := map_eq_ok_iff.mp hread
  exact Literal.readAssigned_isPrintable hvalue

namespace Statement

/-- The values of an insertion that is read can be written. -/
theorem Readable.insert_isPrintable {insertion : Insertion}
    (readable : (Statement.insert insertion).Readable) :
    ∀ value ∈ insertion.values, value.isPrintable = true := by
  cases readable.origin with
  | insert table columns body values_eq =>
      intro value hvalue
      obtain ⟨literal, -, hread⟩ := exists_of_mem_mapM values_eq hvalue
      exact Literal.readInserted_isPrintable hread

/-- The assignments of an update that is read can be written. -/
theorem Readable.update_isPrintable {changes : Update}
    (readable : (Statement.update changes).Readable) : changes.assignments.IsPrintable := by
  cases readable.origin with
  | update table column list literal assignments_eq value_eq =>
      exact Shape.readAssignments_isPrintable assignments_eq

/-- The value that an update that is read looks for can be written. -/
theorem Readable.update_value_isPrintable {changes : Update}
    (readable : (Statement.update changes).Readable) : changes.value.isPrintable = true := by
  cases readable.origin with
  | update table column list literal assignments_eq value_eq =>
      exact Literal.readAssigned_isPrintable value_eq

/-- The ids of a deletion that is read can be written. -/
theorem Readable.delete_isPrintable {deletion : Deletion}
    (readable : (Statement.delete deletion).Readable) :
    ∀ id ∈ deletion.ids, Number.isPrintable id = true := by
  cases readable.origin with
  | delete table column list ids_eq =>
      obtain ⟨found, hfound, hids⟩ := bind_eq_ok_iff.mp ids_eq
      cases hids
      intro id hid
      obtain ⟨_, hmem, rfl⟩ := List.mem_filterMap.mp hid
      obtain ⟨item, -, hread⟩ := exists_of_mem_mapM hfound hmem
      exact Literal.leadingInt_isPrintable hread

end Statement

end MockSql
