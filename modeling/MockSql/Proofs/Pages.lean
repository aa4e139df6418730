/-
# Pages of a selection

A part of a selection's rows is a slice of all its rows, in whichever of the two forms it is asked
for. Whoever asks for one page after another, until a page is empty, collects all rows in their
order, each of them once.
-/

import MockSql.Proofs.Printable
import MockSql.Proofs.SortedRows

namespace MockSql

open MockSql.Number

namespace Table

variable {table : Table} {columns : List String}

/-- A table whose columns have names has all its rows in any order that is asked for. -/
theorem exists_orderedRows (hcolumns : table.columnNames = .ok columns)
    (ordering : Option Ordering) :
    ∃ rows, table.orderedRows ordering = .ok rows ∧ rows.Perm table.rows := by
  cases ordering with
  | none => exact ⟨table.rows, rfl, .refl _⟩
  | some ordering =>
      obtain ⟨key, hkey, -⟩ := exists_columnKey hcolumns ordering.column
      exact ⟨_, map_eq_ok_iff.mpr ⟨key, hkey, rfl⟩, List.mergeSort_perm _ _⟩

end Table

namespace Server

variable {server : Server} {current : Current} {name : String} {order : Option OrderClause}
  {size : Nat}

/-- The rows that are collected by asking for one page after another, from an offset on and until a
page is empty. -/
inductive Collects (current : Current) (name : String) (order : Option OrderClause) (size : Nat) :
    Server → Nat → List Row → Prop
  | last {server after : Server} {offset : Nat} {columns : List String} {total : Option Nat}
      (answered : server.execute current (selectionText name order (.limitOffset size offset)) =
        (.ok (.rows columns [] total), after)) :
      Collects current name order size server offset []
  | more {server after : Server} {offset : Nat} {columns : List String} {total : Option Nat}
      {page later : List Row}
      (answered : server.execute current (selectionText name order (.limitOffset size offset)) =
        (.ok (.rows columns page total), after))
      (isPage : page ≠ []) (rest : Collects current name order size after (offset + size) later) :
      Collects current name order size server offset (page ++ later)

namespace Collects

variable {rows all : List Row} {columns : List String} {total : Option Nat} {offset : Nat}

/-- Behind the last row nothing is collected. -/
theorem iff_of_empty
    (answered : server.execute current (selectionText name order (.limitOffset size offset)) =
      (.ok (.rows columns [] total), server)) :
    Collects current name order size server offset rows ↔ rows = [] := by
  constructor
  · intro collects
    cases collects with
    | last => rfl
    | more answered' isPage rest =>
        cases answered.symm.trans answered'
        exact absurd rfl isPage
  · rintro rfl
    exact .last answered

/-- Before it, what is collected is a page and what is collected behind it. -/
theorem iff_of_page {page : List Row} (isPage : page ≠ [])
    (answered : server.execute current (selectionText name order (.limitOffset size offset)) =
      (.ok (.rows columns page total), server)) :
    Collects current name order size server offset rows ↔
      ∃ later, Collects current name order size server (offset + size) later ∧
        rows = page ++ later := by
  constructor
  · intro collects
    cases collects with
    | last answered' =>
        cases answered.symm.trans answered'
        exact absurd rfl isPage
    | more answered' isPage rest =>
        cases answered.symm.trans answered'
        exact ⟨_, rest, rfl⟩
  · rintro ⟨later, rest, rfl⟩
    exact .more answered isPage rest

/-- If every page is a slice of a list, the pages from one on are collected to what is left of the
list there. The induction is on the number of pages that are left. -/
theorem iff_of_slices {last : Nat} (hsize : 0 < size) (hlast : all.length ≤ last * size)
    (answered : ∀ i ≤ last,
      server.execute current (selectionText name order (.limitOffset size (i * size))) =
        (.ok (.rows columns ((all.drop (i * size)).take size) total), server))
    {i : Nat} (hi : i ≤ last) :
    Collects current name order size server (i * size) rows ↔ rows = all.drop (i * size) := by
  induction hleft : last - i generalizing i rows with
  | zero =>
      have hend : all.drop (i * size) = [] := by
        rw [List.drop_eq_nil_iff, show i = last by omega]
        exact hlast
      have hanswer := answered i hi
      rw [hend, List.take_nil] at hanswer
      rw [hend, iff_of_empty hanswer]
  | succ left ih =>
      have hanswer := answered i hi
      by_cases hend : all.drop (i * size) = []
      · rw [hend, List.take_nil] at hanswer
        rw [hend, iff_of_empty hanswer]
      · have isPage : (all.drop (i * size)).take size ≠ [] := by
          rw [ne_eq, List.take_eq_nil_iff, not_or]
          exact ⟨hsize.ne', hend⟩
        have hnext : i * size + size = (i + 1) * size := (Nat.succ_mul i size).symm
        have hsplit : all.drop (i * size) =
            (all.drop (i * size)).take size ++ all.drop ((i + 1) * size) := by
          rw [← hnext, ← List.drop_drop, List.take_append_drop]
        rw [iff_of_page isPage hanswer, hnext]
        simp only [ih (show i + 1 ≤ last by omega) (show last - (i + 1) = left by omega),
          exists_eq_left]
        rw [← hsplit]

end Collects

variable {table : Table} {columns : List String}

/-- A page is the slice of the rows that a selection of all rows answers, in both forms. The pages
one after another give these rows exactly, if an offset behind the last row is short enough to be
read. -/
theorem pages_partition (htarget : server.target? current name = some table)
    (hcolumns : table.columnNames = .ok columns) (isName : IsName name)
    (areNames : ∀ clause ∈ order, IsName clause.column) :
    ∃ all : List Row, all.Perm table.rows ∧
      server.execute current (selectionText name order .all) =
        (.ok (.rows columns all (some table.rows.length)), server) ∧
      (∀ n k : Nat, isPrintable n = true → isPrintable k = true →
        server.execute current (selectionText name order (.limitOffset n k)) =
          (.ok (.rows columns ((all.drop k).take n) (some table.rows.length)), server) ∧
        server.execute current (selectionText name order (.offsetComma k n)) =
          server.execute current (selectionText name order (.limitOffset n k))) ∧
      (∀ n last : Nat, 1 ≤ n → isPrintable n = true → isPrintable (last * n : Nat) = true →
        all.length ≤ last * n →
        ∀ rows, Collects current name order n server 0 rows ↔ rows = all) := by
  obtain ⟨all, hrows, hperm⟩ := Table.exists_orderedRows hcolumns (order.map OrderClause.meaning)
  have hpage {page : PageClause} (readable : page.IsReadable) :=
    execute_selectionText htarget hcolumns isName areNames readable hrows
  have hslice (n k : Nat) (hn : isPrintable n = true) (hk : isPrintable k = true) :
      server.execute current (selectionText name order (.limitOffset n k)) =
        (.ok (.rows columns ((all.drop k).take n) (some table.rows.length)), server) :=
    hpage ⟨hn, hk⟩
  refine ⟨all, hperm, @hpage .all trivial, ?_, ?_⟩
  · intro n k hn hk
    exact ⟨hslice n k hn hk, (@hpage (.offsetComma k n) ⟨hn, hk⟩).trans (hslice n k hn hk).symm⟩
  · intro n last hpos hn hlast hend rows
    have answered (i : Nat) (hi : i ≤ last) :=
      hslice n (i * n) hn (isPrintable_of_le (Nat.mul_le_mul_right n hi) hlast)
    have hcollects : Collects current name order n server (0 * n) rows ↔ rows = all.drop (0 * n) :=
      Collects.iff_of_slices hpos hend answered (Nat.zero_le last)
    rwa [Nat.zero_mul, List.drop_zero] at hcollects

/-- A table and a column that are called like the keywords of a selection, with an order, in pages
of two. -/
theorem pages_partition_of_keywords :
    let rows : List Row := [[("Order", .int 2)], [("Order", .text "1.5")], [("Order", .int 3)]]
    let table : Table := { Table.ofDefinitions "LIMIT" [{ name := "Order", type := "int" }] with
      rowCount := 3, rows := rows }
    let server : Server := [("db", [("LIMIT", table)])]
    server.target? (.named "db") "limit" = some table ∧ table.columnNames = .ok ["Order"] ∧
      IsName "limit" ∧ IsName "order" ∧ isPrintable 2 = true ∧
      ∃ all : List Row, all.Perm rows ∧
        server.execute (.named "db") "SELECT * FROM limit ORDER BY order DESC" =
          (.ok (.rows ["Order"] all (some 3)), server) ∧
        server.execute (.named "db") "SELECT * FROM limit ORDER BY order DESC LIMIT 2 OFFSET 1" =
          (.ok (.rows ["Order"] ((all.drop 1).take 2) (some 3)), server) ∧
        server.execute (.named "db") "SELECT * FROM limit ORDER BY order DESC LIMIT 1, 2" =
          server.execute (.named "db")
            "SELECT * FROM limit ORDER BY order DESC LIMIT 2 OFFSET 1" ∧
        Collects (.named "db") "limit" (some ⟨"order", some .descending⟩) 2 server 0 all := by
  intro rows table server
  have hsame : sameName "LIMIT" "limit" = true := by decide +kernel
  have htarget : server.target? (.named "db") "limit" = some table := by
    simp [server, target?, Current.find, Entries.find?, Entries.resolve?, Entries.keys,
      Entries.get?, hsame]
  have hcolumns : table.columnNames = .ok ["Order"] := rfl
  have isTable : IsName "limit" := ⟨by decide, by decide⟩
  have isColumn : IsName "order" := ⟨by decide, by decide⟩
  have hprintable : ∀ n ∈ [1, 2, 4], isPrintable (n : Nat) = true := forall_mem_of_all (by decide)
  have areNames : ∀ clause ∈ some (⟨"order", some .descending⟩ : OrderClause),
      IsName clause.column := by
    rintro clause ⟨⟩
    exact isColumn
  obtain ⟨all, hperm, hall, hpages, hcollects⟩ :=
    pages_partition htarget hcolumns isTable areNames
  obtain ⟨hslice, hforms⟩ := hpages 2 1 (hprintable 2 (by simp)) (hprintable 1 (by simp))
  have hlength : all.length ≤ 2 * 2 := by
    rw [hperm.length_eq]
    decide
  refine ⟨htarget, hcolumns, isTable, isColumn, hprintable 2 (by simp), all, hperm, hall, hslice,
    hforms, ?_⟩
  exact (hcollects 2 2 (by decide) (hprintable 2 (by simp)) (hprintable 4 (by simp)) hlength
    all).mpr rfl

end Server

end MockSql
