/-
# The number of a new row

A column that numbers its rows gives a new row the first integer above zero and above all numbers in
the column. The greatest of these is found by going through the rows: it is one of them or zero, and
none of them is greater. There is no number for the new row exactly when a cell reads as infinity.
Numbers that can be written have one successor that cannot, and a double is never large enough to
lead there, so the new number has too many digits exactly when a cell holds the greatest integer
that can be written.
-/

import MockSql.Proofs.PrintableLiterals

namespace MockSql

namespace Number

variable {a b c : Number}

theorem less_eq_true_iff : a.less b = true ↔
    ∃ p q, a.rank? = some p ∧ b.rank? = some q ∧ (p.1 < q.1 ∨ p.1 = q.1 ∧ p.2 < q.2) := by
  unfold less
  cases a.rank? <;> cases b.rank? <;> simp

theorem less_eq_false_iff : a.less b = false ↔
    ∀ p q, a.rank? = some p → b.rank? = some q → ¬(p.1 < q.1 ∨ p.1 = q.1 ∧ p.2 < q.2) := by
  rw [Bool.eq_false_iff, Ne, less_eq_true_iff]
  simp only [not_exists, not_and]

theorem less_self (a : Number) : a.less a = false := by
  rw [less_eq_false_iff]
  intro p q hp hq
  cases hp.symm.trans hq
  omega

/-- What is not below a number that has a rank is not below anything that this number is not
below. -/
theorem not_less_trans (ranked : b.rank? ≠ none) (hab : a.less b = false)
    (hbc : b.less c = false) : a.less c = false := by
  obtain ⟨q, hq⟩ := Option.ne_none_iff_exists'.mp ranked
  rw [less_eq_false_iff] at *
  intro p r hp hr
  have hpq := hab p q hp hq
  have hqr := hbc q r hq hr
  omega

/-- Of two numbers one is not below the other. -/
theorem not_less_of_less (h : a.less b = true) : b.less a = false := by
  obtain ⟨p, q, hp, hq, hless⟩ := less_eq_true_iff.mp h
  rw [less_eq_false_iff]
  intro q' p' hq' hp'
  cases hp.symm.trans hp'
  cases hq.symm.trans hq'
  omega

theorem rank?_int_ne_none (n : Int) : (Number.int n).rank? ≠ none := by
  intro h
  cases h

/-- The double above all finite numbers. -/
def infinity : Number :=
  .double (.infinite false)

/-- A number that has an integer part has a rank among the finite ones. -/
theorem rank?_of_truncate? {whole : Int} (h : a.truncate? = some whole) :
    ∃ units, a.rank? = some (0, units) ∧ whole = Int.tdiv units Double.unitsPerOne := by
  have hunit : (Double.unitsPerOne : Int) ≠ 0 := by decide +kernel
  cases a with
  | int n =>
      cases h
      exact ⟨whole * Double.unitsPerOne, rfl, (Int.mul_tdiv_cancel whole hunit).symm⟩
  | double x =>
      cases x with
      | nan | infinite => cases h
      | finite negative exponent fraction =>
          cases h
          exact ⟨_, rfl, rfl⟩

/-- A number is below every integer that is above its integer part. -/
theorem less_of_truncate?_lt {whole n : Int} (h : a.truncate? = some whole) (hlt : whole < n) :
    a.less (.int n) = true := by
  have hunit : (0 : Int) < Double.unitsPerOne := by decide +kernel
  obtain ⟨units, hrank, rfl⟩ := rank?_of_truncate? h
  have hunits : units < n * Double.unitsPerOne :=
    calc units = Int.tmod units Double.unitsPerOne +
          Double.unitsPerOne * Int.tdiv units Double.unitsPerOne := (Int.tmod_add_mul_tdiv ..).symm
      _ < Double.unitsPerOne + Double.unitsPerOne * Int.tdiv units Double.unitsPerOne :=
        Int.add_lt_add_right (Int.tmod_lt_of_pos units hunit) _
      _ = (Int.tdiv units Double.unitsPerOne + 1) * Double.unitsPerOne := by
        rw [Int.add_mul, Int.one_mul, Int.add_comm, Int.mul_comm]
      _ ≤ n * Double.unitsPerOne := Int.mul_le_mul_of_nonneg_right hlt (Int.le_of_lt hunit)
  exact less_eq_true_iff.mpr ⟨_, _, hrank, rfl, .inr ⟨rfl, hunits⟩⟩

end Number

/-- Only an integer reads as an integer. -/
theorem Value.eq_int_of_number? {value : Value} {n : Int} (h : value.number? = some (.int n)) :
    value = .int n := by
  cases value with
  | null | bool | double => cases h
  | int m =>
      cases h
      rfl
  | text s =>
      obtain ⟨x, -, hx⟩ := Option.map_eq_some_iff.mp h
      cases hx

theorem Value.number?_int_ne_infinity (n : Int) :
    (Value.int n).number? ≠ some Number.infinity := by
  intro h
  cases h

namespace Table

open Number

variable {rows : List Row} {column : String}

/-- Of a start and the numbers in a column this is the greatest. -/
structure IsGreatest (rows : List Row) (column : String) (start greatest : Number) : Prop where
  ranked : greatest.rank? ≠ none
  above : greatest.less start = false
  bound : ∀ row ∈ rows, ∀ n, (row.cell column).number? = some n → greatest.less n = false
  origin : greatest = start ∨ ∃ row ∈ rows, (row.cell column).number? = some greatest

theorem greater_eq (best : Number) (value : Value) :
    greater best value = best ∨ value.number? = some (greater best value) := by
  unfold greater
  split
  next n hn =>
    split
    next => exact .inr hn
    next => exact .inl rfl
  next => exact .inl rfl

/-- The greater of a number and what a value reads as is below neither. -/
theorem greater_bound {best : Number} (ranked : best.rank? ≠ none) (value : Value) :
    (greater best value).rank? ≠ none ∧ (greater best value).less best = false ∧
      ∀ n, value.number? = some n → (greater best value).less n = false := by
  unfold greater
  split
  next n hn =>
    split
    next hless =>
      obtain ⟨p, q, hp, hq, -⟩ := less_eq_true_iff.mp hless
      refine ⟨by simp [hq], not_less_of_less hless, ?_⟩
      intro read hread
      cases hn.symm.trans hread
      exact less_self n
    next hnot =>
      refine ⟨ranked, less_self best, ?_⟩
      intro read hread
      cases hn.symm.trans hread
      exact Bool.eq_false_iff.mpr hnot
  next hnone =>
    refine ⟨ranked, less_self best, ?_⟩
    intro read hread
    cases hnone.symm.trans hread

/-- Going through the rows finds the greatest number of the column. -/
theorem isGreatest_foldl {start : Number} (hstart : start.rank? ≠ none) (rows : List Row)
    (column : String) : IsGreatest rows column start
      (rows.foldl (fun best row => greater best (row.cell column)) start) := by
  induction rows generalizing start with
  | nil => exact ⟨hstart, less_self start, fun row hrow => absurd hrow List.not_mem_nil, .inl rfl⟩
  | cons row rest ih =>
      obtain ⟨ranked, above, bound⟩ := greater_bound hstart (row.cell column)
      have later := ih ranked
      refine ⟨later.ranked, not_less_trans ranked later.above above, ?_, ?_⟩
      · intro stored hstored n hn
        rcases List.mem_cons.mp hstored with rfl | hrest
        · exact not_less_trans ranked later.above (bound n hn)
        · exact later.bound stored hrest n hn
      · rcases later.origin with heq | ⟨stored, hstored, hread⟩
        · rcases greater_eq start (row.cell column) with hkept | hread
          · exact .inl (heq.trans hkept)
          · exact .inr ⟨row, List.mem_cons_self, hread.trans (congrArg some heq.symm)⟩
        · exact .inr ⟨stored, List.mem_cons_of_mem _ hstored, hread⟩

/-- The greatest number of a column, or zero. -/
def greatest (rows : List Row) (column : String) : Number :=
  rows.foldl (fun best row => greater best (row.cell column)) (.int 0)

theorem isGreatest (rows : List Row) (column : String) :
    IsGreatest rows column (.int 0) (greatest rows column) :=
  isGreatest_foldl (rank?_int_ne_none 0) rows column

/-- The new number is the successor of the greatest one's integer part. -/
theorem nextId_eq_ok_iff {id : Int} : nextId rows column = .ok id ↔
    ∃ whole, (greatest rows column).truncate? = some whole ∧ id = whole + 1 := by
  have hgreatest : rows.foldl (fun best row => greater best (row.cell column)) (.int 0) =
      greatest rows column := rfl
  rw [nextId, hgreatest]
  cases (greatest rows column).truncate? <;> simp [eq_comm]

theorem greatest_eq_infinity (h : (greatest rows column).truncate? = none) :
    greatest rows column = infinity := by
  have ranked := (isGreatest rows column).ranked
  have above := (isGreatest rows column).above
  generalize greatest rows column = best at h ranked above
  cases best with
  | int n => cases h
  | double x =>
      cases x with
      | nan => exact absurd rfl ranked
      | finite => cases h
      | infinite negative =>
          cases negative with
          | false => rfl
          | true =>
              have hless : (Number.double (.infinite true)).less (.int 0) = true :=
                less_eq_true_iff.mpr ⟨_, _, rfl, rfl, .inl (by decide)⟩
              cases above.symm.trans hless

/-- There is a new number unless a cell of the column reads as infinity. -/
theorem exists_nextId_iff : (∃ id, nextId rows column = .ok id) ↔
    ∀ row ∈ rows, (row.cell column).number? ≠ some infinity := by
  constructor
  · rintro ⟨id, hid⟩ row hrow hread
    obtain ⟨whole, hwhole, -⟩ := nextId_eq_ok_iff.mp hid
    obtain ⟨units, hrank, -⟩ := rank?_of_truncate? hwhole
    have hless : (greatest rows column).less infinity = true :=
      less_eq_true_iff.mpr ⟨_, _, hrank, rfl, .inl Int.one_pos⟩
    cases ((isGreatest rows column).bound row hrow _ hread).symm.trans hless
  · intro finite
    cases htruncate : (greatest rows column).truncate? with
    | some whole => exact ⟨whole + 1, nextId_eq_ok_iff.mpr ⟨whole, htruncate, rfl⟩⟩
    | none =>
        have hinfinite := greatest_eq_infinity htruncate
        rcases (isGreatest rows column).origin with hzero | ⟨row, hrow, hread⟩
        · cases hzero.symm.trans hinfinite
        · exact absurd (hread.trans (congrArg some hinfinite)) (finite row hrow)

end Table

namespace Double

/-- What no finite double reaches, 2^1024. -/
def wholeLimit : Nat := Nat.pow 2 1024

theorem magnitude_lt_of_le {exponent : Fin 2047} {top : Nat} (hexponent : exponent.val ≤ top + 1)
    (fraction : Fin fractionCount) :
    magnitude exponent fraction < 2 * fractionCount * Nat.pow 2 top := by
  have hsignificand : fractionCount + fraction.val < 2 * fractionCount := by omega
  have hpower : 0 < Nat.pow 2 top := Nat.pow_pos (by decide)
  unfold magnitude
  split
  next =>
    calc fraction.val
        < 2 * fractionCount := by omega
      _ ≤ 2 * fractionCount * Nat.pow 2 top := Nat.le_mul_of_pos_right _ hpower
  next =>
    have hshift : exponent.val - 1 ≤ top := by omega
    exact Nat.mul_lt_mul_of_lt_of_le hsignificand (Nat.pow_le_pow_right (by decide) hshift) hpower

theorem magnitude_lt (exponent : Fin 2047) (fraction : Fin fractionCount) :
    magnitude exponent fraction < wholeLimit * unitsPerOne := by
  obtain ⟨top, htop, hlimit⟩ : ∃ top, 2046 ≤ top + 1 ∧
      2 * fractionCount * Nat.pow 2 top = wholeLimit * unitsPerOne :=
    ⟨2045, by decide, by decide +kernel⟩
  rw [← hlimit]
  exact magnitude_lt_of_le (by omega) fraction

/-- The integer part of a double is below the limit. -/
theorem natAbs_lt_of_truncate? {x : Double} {whole : Int}
    (h : (Number.double x).truncate? = some whole) : whole.natAbs < wholeLimit := by
  cases x with
  | nan | infinite => cases h
  | finite negative exponent fraction =>
      cases h
      have hsize := magnitude_lt exponent fraction
      rw [Nat.mul_comm] at hsize
      rw [Int.natAbs_tdiv, Int.natAbs_natCast]
      apply Nat.div_lt_of_lt_mul
      cases negative <;> simpa using hsize

end Double

namespace Number

/-- The greatest integer that can be written. -/
def greatestPrintable : Nat :=
  Nat.pow 10 digitLimit - 1

theorem isPrintable_iff_le {n : Int} (hn : 0 ≤ n) :
    isPrintable n = true ↔ n ≤ greatestPrintable := by
  have hpos (limit : Nat) : 0 < Nat.pow 10 limit := Nat.pow_pos (by decide)
  have hlimit := hpos digitLimit
  rw [isPrintable_iff, greatestPrintable]
  omega

end Number

namespace Table

open Number

variable {rows : List Row} {column : String}

/-- The new number is above every integer of the column. -/
theorem lt_nextId {id : Int} (hid : nextId rows column = .ok id) {row : Row} (hrow : row ∈ rows)
    {n : Int} (hcell : row.cell column = .int n) : n < id := by
  obtain ⟨whole, hwhole, rfl⟩ := nextId_eq_ok_iff.mp hid
  apply Int.lt_add_one_of_le
  apply Int.not_lt.mp
  intro hlt
  have hbound := (isGreatest rows column).bound row hrow (.int n) (by rw [hcell]; rfl)
  cases hbound.symm.trans (less_of_truncate?_lt hwhole hlt)

theorem nextId_pos {id : Int} (hid : nextId rows column = .ok id) : 0 < id := by
  obtain ⟨whole, hwhole, rfl⟩ := nextId_eq_ok_iff.mp hid
  apply Int.lt_add_one_of_le
  apply Int.not_lt.mp
  intro hlt
  cases (isGreatest rows column).above.symm.trans (less_of_truncate?_lt hwhole hlt)

/-- Where all cells can be written, the new number can unless a cell holds the greatest integer that
can. -/
theorem nextId_isPrintable_iff {id : Int} (printable : ∀ row ∈ rows, row.IsPrintable)
    (hid : nextId rows column = .ok id) :
    isPrintable id = true ↔ ∀ row ∈ rows, row.cell column ≠ .int greatestPrintable := by
  have hpos := nextId_pos hid
  rw [isPrintable_iff_le (Int.le_of_lt hpos)]
  constructor
  · intro hle row hrow hcell
    have hlt := lt_nextId hid hrow hcell
    omega
  · intro hnone
    have hdouble : Double.wholeLimit < greatestPrintable := by decide +kernel
    obtain ⟨whole, hwhole, rfl⟩ := nextId_eq_ok_iff.mp hid
    have horigin := (isGreatest rows column).origin
    generalize greatest rows column = best at hwhole horigin
    cases best with
    | double x =>
        have hsmall := Double.natAbs_lt_of_truncate? hwhole
        omega
    | int n =>
        cases hwhole
        rcases horigin with hzero | ⟨row, hrow, hread⟩
        · cases hzero
          omega
        · have hcell : row.cell column = .int whole := Value.eq_int_of_number? hread
          have hprintable := (printable row hrow).cell column
          have hne : whole ≠ greatestPrintable := fun heq => hnone row hrow (heq ▸ hcell)
          rw [hcell] at hprintable
          have hle := (isPrintable_iff_le (by omega)).mp hprintable
          omega

end Table

end MockSql
