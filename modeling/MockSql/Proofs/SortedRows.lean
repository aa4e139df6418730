/-
# Rows in order

A cell has a place in an order: nothing comes first, then what reads as a number by its exact
value, then all other texts by their characters. Only NaN has no place. Where every cell of a column
has one, a selection ordered by it answers the rows sorted by their places; rows of one place keep
their order among each other, whichever way the places run.
-/

import Mathlib.Data.Char
import Mathlib.Data.List.Lex
import Mathlib.Data.List.Sort
import Mathlib.Data.Sum.Order
import Mathlib.Order.WithBot
import MockSql.Proofs.ExactNumbers
import MockSql.Proofs.Selections

namespace MockSql

section StableSorting

variable {α β : Type} [LinearOrder β]

/-- Sorting by a key is stable: items that all have one key keep their order. -/
theorem filter_mergeSort (key : α → β) {items : List α} {isKept : α → Bool}
    (hkeys : ∀ a ∈ items.filter isKept, ∀ b ∈ items.filter isKept, key a = key b) :
    (items.mergeSort fun a b => key a ≤ key b).filter isKept = items.filter isKept := by
  let le (a b : α) : Bool := key a ≤ key b
  have trans (a b c : α) (hab : le a b = true) (hbc : le b c = true) : le a c = true :=
    decide_eq_true ((of_decide_eq_true hab).trans (of_decide_eq_true hbc))
  have total (a b : α) : (le a b || le b a) = true := by
    simpa [le] using le_total (key a) (key b)
  have hordered : (items.filter isKept).Pairwise (le · ·) :=
    List.pairwise_of_forall_mem_list fun a ha b hb => decide_eq_true (hkeys a ha b hb).le
  have hkept : (items.filter isKept).Sublist (items.mergeSort le) :=
    List.sublist_mergeSort trans total hordered List.filter_sublist
  have hfiltered : (items.filter isKept).Sublist ((items.mergeSort le).filter isKept) := by
    simpa only [List.filter_filter, Bool.and_self] using hkept.filter isKept
  have hlength := ((List.mergeSort_perm items le).filter isKept).length_eq
  exact (hfiltered.eq_of_length hlength.symm).symm

/-- Only what the comparison says of the items matters for sorting them. -/
theorem mergeSort_congr {le le' : α → α → Bool} {items : List α}
    (h : ∀ a ∈ items, ∀ b ∈ items, le a b = le' a b) : items.mergeSort le = items.mergeSort le' := by
  have hmap := List.map_mergeSort (f := id) h
  simpa using hmap

end StableSorting

/-- A place in an order: nothing, a number, or a text. Each kind comes before the next, numbers are
in the order of their values and texts in that of their characters. -/
abbrev Place : Type :=
  WithBot (ExtendedRat ⊕ₗ List Char)

namespace Place

/-- The place of a number. -/
def number (value : ExtendedRat) : Place :=
  ((Sum.inlₗ value : ExtendedRat ⊕ₗ List Char) : Place)

/-- The place of a text that is no number. -/
def text (chars : List Char) : Place :=
  ((Sum.inrₗ chars : ExtendedRat ⊕ₗ List Char) : Place)

theorem number_lt_number {x y : ExtendedRat} : number x < number y ↔ x < y := by
  simp [number]

theorem text_lt_text {s t : List Char} : text s < text t ↔ s < t := by
  simp [text]

theorem number_lt_text (x : ExtendedRat) (s : List Char) : number x < text s := by
  simp [number, text]

theorem bot_lt_number (x : ExtendedRat) : ⊥ < number x :=
  WithBot.bot_lt_coe _

theorem bot_lt_text (s : List Char) : ⊥ < text s :=
  WithBot.bot_lt_coe _

end Place

/-- The place of a cell: nothing comes first, then what reads as a number by its exact value, then
the other texts. NaN has no place. -/
def Value.place? (value : Value) : Option Place :=
  if value = .null then some ⊥ else
    match value.number? with
    | some n => n.value?.map .number
    | none => value.toText.toOption.map fun s => .text s.toList

/-- A cell that does not read as NaN has a place. -/
theorem Value.exists_place? {value : Value} (hnan : value.number? ≠ some (.double .nan)) :
    ∃ place, value.place? = some place := by
  have hnumber {n : Number} (hread : value.number? = some n) :
      ∃ place, n.value?.map Place.number = some place := by
    have hexact : n.value? ≠ none := fun hnone =>
      hnan (hread.trans (congrArg some (Number.value?_eq_none_iff.mp hnone)))
    obtain ⟨x, hx⟩ := Option.ne_none_iff_exists'.mp hexact
    exact ⟨.number x, by rw [hx]; rfl⟩
  unfold place?
  split
  next => exact ⟨⊥, rfl⟩
  next hnull =>
    cases hread : value.number? with
    | some n => exact hnumber hread
    | none =>
        cases value with
        | null => exact absurd rfl hnull
        | int n | double x => cases hread
        | bool b => exact ⟨_, rfl⟩
        | text s => exact ⟨_, rfl⟩

namespace SortKey

/-- The place that a key stands for. -/
inductive HasPlace : SortKey → Place → Prop
  | missing : HasPlace .missing ⊥
  | number {n : Number} {x : ExtendedRat} (value : n.value? = some x) :
      HasPlace (.number n) (.number x)
  | text (s : List Char) : HasPlace (.text s) (.text s)

/-- Keys are compared as their places are. -/
theorem less_iff {a b : SortKey} {p q : Place} (ha : a.HasPlace p) (hb : b.HasPlace q) :
    a.less b = true ↔ p < q := by
  cases ha with
  | missing =>
      cases hb with
      | missing => simp [less]
      | number => simp [less, Place.bot_lt_number]
      | text => simp [less, Place.bot_lt_text]
  | number hx =>
      cases hb with
      | missing => simp [less]
      | number hy => simp [less, Number.less_iff, Place.number_lt_number, hx, hy]
      | text => simp [less, Place.number_lt_text]
  | text s =>
      cases hb with
      | missing => simp [less]
      | @number n y hy => simp [less, lt_asymm (Place.number_lt_text y s)]
      | text t => simp [less, Place.text_lt_text]

end SortKey

/-- The key of a cell stands for its place. -/
theorem Value.sortKey_hasPlace {value : Value} {place : Place} (h : value.place? = some place) :
    value.sortKey.HasPlace place := by
  have hnumber {n : Number} (hplace : n.value?.map Place.number = some place) :
      (SortKey.number n).HasPlace place := by
    obtain ⟨x, hx, rfl⟩ := Option.map_eq_some_iff.mp hplace
    exact .number hx
  cases value with
  | null =>
      cases h
      exact .missing
  | bool b =>
      cases h
      exact .text _
  | int n => exact hnumber h
  | double x => exact hnumber h
  | text s =>
      simp only [place?, reduceCtorEq, if_false] at h
      unfold sortKey
      cases hread : (Value.text s).number? with
      | some n =>
          rw [hread] at h
          exact hnumber h
      | none =>
          rw [hread] at h
          cases h
          exact .text _

namespace Table

/-- The place of a row: that of its cell in a column. -/
def rowPlace? (key : String) (row : Row) : Option Place :=
  (row.cell key).place?

variable {rows : List Row} {key : String}

/-- Where every row has a place, sorting compares the places. -/
theorem sortRows_eq {place : Row → Place} (hplace : ∀ row ∈ rows, rowPlace? key row = some (place row))
    (descending : Bool) :
    sortRows rows key descending =
      if descending then rows.mergeSort (place · ≥ place ·) else rows.mergeSort (place · ≤ place ·) := by
  have hless (a : Row) (ha : a ∈ rows) (b : Row) (hb : b ∈ rows) :
      (!(a.cell key).sortKey.less (b.cell key).sortKey) = decide (place b ≤ place a) := by
    have hiff := SortKey.less_iff (Value.sortKey_hasPlace (hplace a ha))
      (Value.sortKey_hasPlace (hplace b hb))
    rw [Bool.eq_iff_iff, Bool.not_eq_true', ← Bool.not_eq_true, hiff, not_lt, decide_eq_true_iff]
  unfold sortRows
  cases descending with
  | false =>
      exact mergeSort_congr fun a ha b hb => by
        simp only [Bool.false_eq_true, if_false]
        exact hless b hb a ha
  | true =>
      exact mergeSort_congr fun a ha b hb => by
        simp only [if_true]
        exact hless a ha b hb

/-- Rows are sorted by their places, and stably. -/
structure IsSorted (key : String) (descending : Bool) (rows sorted : List Row) : Prop where
  /-- No row is lost or made up. -/
  perm : sorted.Perm rows
  /-- Every row has a place, and none is behind a row that it should be before. -/
  ordered : ∃ places : List Place, sorted.map (rowPlace? key) = places.map some ∧
    places.Pairwise fun p q => if descending then q ≤ p else p ≤ q
  /-- Rows of one place keep their order. -/
  stable (place : Place) : sorted.filter (rowPlace? key · = some place) =
    rows.filter (rowPlace? key · = some place)

/-- Sorting a column in which every cell has a place sorts the rows, in both directions. -/
theorem isSorted_sortRows (hplaces : ∀ row ∈ rows, ∃ place, rowPlace? key row = some place)
    (descending : Bool) : IsSorted key descending rows (sortRows rows key descending) := by
  let place (row : Row) : Place := (rowPlace? key row).getD ⊥
  have hplace : ∀ row ∈ rows, rowPlace? key row = some (place row) := by
    intro row hrow
    obtain ⟨found, hfound⟩ := hplaces row hrow
    simp only [place, hfound, Option.getD_some]
  have hperm : (sortRows rows key descending).Perm rows := List.mergeSort_perm rows _
  refine ⟨hperm, ⟨(sortRows rows key descending).map place, ?_, ?_⟩, ?_⟩
  · rw [List.map_map]
    exact List.map_congr_left fun row hrow => hplace row (hperm.mem_iff.mp hrow)
  · rw [List.pairwise_map, sortRows_eq hplace]
    cases descending with
    | false => exact List.pairwise_mergeSort' (place · ≤ place ·) rows
    | true => exact List.pairwise_mergeSort' (place · ≥ place ·) rows
  · intro p
    have hsame : ∀ a ∈ rows.filter (rowPlace? key · = some p),
        ∀ b ∈ rows.filter (rowPlace? key · = some p), place a = place b := by
      have hkept : ∀ a ∈ rows.filter (rowPlace? key · = some p), place a = p := by
        intro a ha
        simp only [place, of_decide_eq_true (List.mem_filter.mp ha).2, Option.getD_some]
      exact fun a ha b hb => (hkept a ha).trans (hkept b hb).symm
    rw [sortRows_eq hplace]
    cases descending with
    | false => exact filter_mergeSort place hsame
    | true =>
        exact filter_mergeSort (fun row => OrderDual.toDual (place row))
          fun a ha b hb => congrArg OrderDual.toDual (hsame a ha b hb)

end Table

namespace Server

variable {server : Server} {current : Current} {name : String} {table : Table}
  {columns : List String}

/-- A selection ordered by a column in which nothing reads as NaN answers all rows of the table
sorted by that column, in the direction that is asked for. The column is the one of that name, or
of that name in another spelling. -/
theorem ordered_selection_sorts (htarget : server.target? current name = some table)
    (hcolumns : table.columnNames = .ok columns) (clause : OrderClause) :
    ∃ key, table.columnKey clause.column = .ok key ∧
      (clause.column ∈ columns → key = clause.column) ∧
      ((∀ row ∈ table.rows, (row.cell key).number? ≠ some (.double .nan)) →
        ∃ sorted, Table.IsSorted key clause.meaning.descending table.rows sorted ∧
          server.run current (.select (selectionOf name (some clause) .all)) =
            .ok (.rows columns sorted (some table.rows.length), server) ∧
          (IsName name → IsName clause.column →
            server.execute current (selectionText name (some clause) .all) =
              (.ok (.rows columns sorted (some table.rows.length)), server))) := by
  obtain ⟨key, hkey, hexact⟩ := Table.exists_columnKey hcolumns clause.column
  refine ⟨key, hkey, hexact, fun hnan => ?_⟩
  let sorted := Table.sortRows table.rows key clause.meaning.descending
  have hrows : table.orderedRows (some clause.meaning) = .ok sorted :=
    map_eq_ok_iff.mpr ⟨key, hkey, rfl⟩
  refine ⟨sorted, ?_, ?_, ?_⟩
  · exact Table.isSorted_sortRows (fun row hrow => Value.exists_place? (hnan row hrow)) _
  · exact run_select htarget rfl (@Table.select_eq table columns
      (selectionOf name (some clause) .all) sorted hcolumns hrows)
  · intro isName isColumn
    exact execute_selectionText htarget hcolumns isName (by rintro _ ⟨⟩; exact isColumn) trivial hrows

/-- Nothing, a missing cell, a truth value, texts that are numbers or not, and an integer beside the
double that it would be rounded to. -/
theorem ordered_selection_sorts_of_mixed_column :
    let rows : List Row := [[("c", .text "b")], [("c", .text "1e3")], [],
      [("c", .int 9007199254740993)], [("c", .double (Double.ofDecimal false 9007199254740993 0))],
      [("c", .bool true)], [("c", .text "9007199254740993")], [("c", .null)]]
    let table : Table := { Table.ofDefinitions "t" [{ name := "c", type := "text" }] with
      rowCount := 8, rows := rows }
    let server : Server := [("db", [("t", table)])]
    server.target? (.named "db") "t" = some table ∧ table.columnNames = .ok ["c"] ∧
      (∀ row ∈ rows, (row.cell "c").number? ≠ some (.double .nan)) ∧ IsName "t" ∧ IsName "c" ∧
      ∃ sorted, Table.IsSorted "c" true rows sorted ∧
        server.execute (.named "db") "SELECT * FROM t ORDER BY c DESC" =
          (.ok (.rows ["c"] sorted (some 8)), server) := by
  intro rows table server
  have htarget : server.target? (.named "db") "t" = some table := rfl
  have hcolumns : table.columnNames = .ok ["c"] := rfl
  have hnan : ∀ row ∈ rows, (row.cell "c").number? ≠ some (.double .nan) :=
    forall_mem_of_all (by decide +kernel)
  have isTable : IsName "t" := ⟨by decide, by decide⟩
  have isColumn : IsName "c" := ⟨by decide, by decide⟩
  obtain ⟨key, -, hkey, hsorts⟩ :=
    ordered_selection_sorts htarget hcolumns ⟨"c", some .descending⟩
  cases hkey List.mem_cons_self
  obtain ⟨sorted, isSorted, -, hexecute⟩ := hsorts hnan
  exact ⟨htarget, hcolumns, hnan, isTable, isColumn, sorted, isSorted, hexecute isTable isColumn⟩

end Server

end MockSql
