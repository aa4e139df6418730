/-
# Loose equality

Two cells are loosely equal when they have one place in the order of cells: both are nothing, both
read as numbers of one exact value, or both have one text that is no number. Having one place is
symmetric and transitive, and so is loose equality; only what reads as NaN, which has no place, does
not equal itself.
-/

import MockSql.Proofs.Printable
import MockSql.Proofs.PrintedNumbers
import MockSql.Proofs.SortedRows

namespace MockSql

open MockSql.Number

namespace Place

theorem number_inj {x y : ExtendedRat} : number x = number y ↔ x = y := by
  simp [number]

theorem text_inj {s t : List Char} : text s = text t ↔ s = t := by
  simp [text]

end Place

namespace Value

variable {a b c : Value} {s t : String}

/-- The text of a value reads as a number just when the value does. -/
theorem isSome_number?_text (htext : a.toText = .ok s) :
    (Value.text s).number?.isSome = a.number?.isSome := by
  cases hnumber : a.number? with
  | some n =>
      obtain ⟨m, hm⟩ := exists_number?_toText hnumber htext
      rw [hm]
      rfl
  | none =>
      cases a with
      | null =>
          cases htext
          decide +kernel
      | bool truth =>
          cases htext
          cases truth <;> decide +kernel
      | int n | double x => cases hnumber
      | text s =>
          cases htext
          rw [hnumber]

theorem looseEquals_null : Value.null.looseEquals b = .ok (b = .null) := by
  cases b <;> rfl

theorem looseEquals_null_right : a.looseEquals .null = .ok (a = .null) := by
  cases a <;> rfl

/-- Two numbers are compared as such. -/
theorem looseEquals_numbers {m n : Number} (hm : a.number? = some m) (hn : b.number? = some n) :
    a.looseEquals b = .ok (m.equals n) := by
  cases a with
  | null => cases hm
  | bool | int | double | text =>
      cases b with
      | null => cases hn
      | bool | int | double | text => simp only [looseEquals, hm, hn]

/-- If one of two values is no number, their texts are compared. -/
theorem looseEquals_texts (ha : a ≠ .null) (hb : b ≠ .null)
    (hnumbers : a.number? = none ∨ b.number? = none) :
    a.looseEquals b = (do
      let s ← a.toText
      let t ← b.toText
      .ok (s == t)) := by
  unfold looseEquals
  split
  next => exact absurd rfl ha
  next => exact absurd rfl ha
  next => exact absurd rfl hb
  next =>
    split
    next hm hn =>
      rcases hnumbers with hnone | hnone
      · cases hnone.symm.trans hm
      · cases hnone.symm.trans hn
    next => rfl

theorem looseEquals_texts_iff (ha : a ≠ .null) (hb : b ≠ .null)
    (hnumbers : a.number? = none ∨ b.number? = none) :
    a.looseEquals b = .ok true ↔ ∃ s, a.toText = .ok s ∧ b.toText = .ok s := by
  rw [looseEquals_texts ha hb hnumbers]
  constructor
  · intro hsame
    obtain ⟨s, hs, hsame⟩ := bind_eq_ok_iff.mp hsame
    obtain ⟨t, ht, hsame⟩ := bind_eq_ok_iff.mp hsame
    rw [Except.ok.injEq, beq_iff_eq] at hsame
    exact ⟨s, hs, hsame ▸ ht⟩
  · rintro ⟨s, hs, ht⟩
    simp [hs, ht, bind_ok]

/-- A number and a value that is none have different texts. -/
theorem toText_ne_of_mixed {n : Number} (ha : a.number? = some n) (hb : b.number? = none)
    (htext : a.toText = .ok s) : b.toText ≠ .ok s := by
  intro hsame
  have hsome := (isSome_number?_text htext).symm.trans (isSome_number?_text hsame)
  rw [ha, hb] at hsome
  cases hsome

/-- Values that can be written can be compared. -/
theorem exists_looseEquals (ha : a.isPrintable = true) (hb : b.isPrintable = true) :
    ∃ same, a.looseEquals b = .ok same := by
  rcases eq_or_ne a .null with rfl | hanull
  · exact ⟨decide (b = .null), looseEquals_null⟩
  rcases eq_or_ne b .null with rfl | hbnull
  · exact ⟨decide (a = .null), looseEquals_null_right⟩
  by_cases hnumbers : a.number? = none ∨ b.number? = none
  · obtain ⟨s, hs⟩ := exists_toText_iff.mpr ha
    obtain ⟨t, ht⟩ := exists_toText_iff.mpr hb
    exact ⟨s == t, by rw [looseEquals_texts hanull hbnull hnumbers, hs, bind_ok, ht, bind_ok]⟩
  · rw [not_or] at hnumbers
    obtain ⟨m, hm⟩ := Option.ne_none_iff_exists'.mp hnumbers.1
    obtain ⟨n, hn⟩ := Option.ne_none_iff_exists'.mp hnumbers.2
    exact ⟨m.equals n, looseEquals_numbers hm hn⟩

/-- Only nothing has the first place. -/
theorem place?_eq_bot_iff : a.place? = some ⊥ ↔ a = .null := by
  constructor
  · intro hfirst
    by_contra hnull
    rw [place?, if_neg hnull] at hfirst
    split at hfirst
    next n hnumber =>
      obtain ⟨x, -, hx⟩ := Option.map_eq_some_iff.mp hfirst
      exact (Place.bot_lt_number x).ne' hx
    next hnumber =>
      obtain ⟨s, -, hs⟩ := Option.map_eq_some_iff.mp hfirst
      exact (Place.bot_lt_text s.toList).ne' hs
  · rintro rfl
    rfl

theorem place?_number {n : Number} (hnumber : a.number? = some n) :
    a.place? = n.value?.map .number := by
  cases a with
  | null => cases hnumber
  | bool | int | double | text => simp [place?, hnumber]

theorem place?_text (hnull : a ≠ .null) (hnumber : a.number? = none) (htext : a.toText = .ok s) :
    a.place? = some (.text s.toList) := by
  simp [place?, hnull, hnumber, htext, Except.toOption]

theorem exists_toText_of_number?_eq_none (hnumber : a.number? = none) :
    ∃ s, a.toText = .ok s := by
  cases a with
  | null | bool | text => exact ⟨_, rfl⟩
  | int | double => cases hnumber

/-- A number and a value that is none have different places. -/
theorem place?_ne_of_mixed {n : Number} {place : Place} (ha : a.number? = some n)
    (hb : b.number? = none) (hnull : b ≠ .null) (hplace : a.place? = some place) :
    b.place? ≠ some place := by
  obtain ⟨s, hs⟩ := exists_toText_of_number?_eq_none hb
  rw [place?_number ha] at hplace
  obtain ⟨x, -, rfl⟩ := Option.map_eq_some_iff.mp hplace
  rw [place?_text hnull hb hs]
  exact fun hsame => (Place.number_lt_text x s.toList).ne' (Option.some.inj hsame)

/-- Values are loosely equal just when they have one place. -/
theorem looseEquals_iff :
    a.looseEquals b = .ok true ↔ ∃ place, a.place? = some place ∧ b.place? = some place := by
  rcases eq_or_ne a .null with rfl | hanull
  · simp [looseEquals_null, place?_eq_bot_iff.mpr rfl, place?_eq_bot_iff]
  rcases eq_or_ne b .null with rfl | hbnull
  · simp [looseEquals_null_right, place?_eq_bot_iff.mpr rfl, place?_eq_bot_iff]
  cases hm : a.number? with
  | some m =>
      cases hn : b.number? with
      | some n =>
          rw [looseEquals_numbers hm hn, place?_number hm, place?_number hn, Except.ok.injEq,
            equals_iff]
          constructor
          · rintro ⟨hvalue, hne⟩
            obtain ⟨x, hx⟩ := Option.ne_none_iff_exists'.mp hne
            exact ⟨.number x, by rw [hx]; rfl, by rw [← hvalue, hx]; rfl⟩
          · rintro ⟨place, hp, hq⟩
            obtain ⟨x, hx, rfl⟩ := Option.map_eq_some_iff.mp hp
            obtain ⟨y, hy, hxy⟩ := Option.map_eq_some_iff.mp hq
            rw [hx, hy, Place.number_inj.mp hxy]
            exact ⟨rfl, Option.some_ne_none _⟩
      | none =>
          rw [looseEquals_texts_iff hanull hbnull (.inr hn)]
          refine iff_of_false ?_ ?_
          · rintro ⟨s, hs, ht⟩
            exact toText_ne_of_mixed hm hn hs ht
          · rintro ⟨place, hp, hq⟩
            exact place?_ne_of_mixed hm hn hbnull hp hq
  | none =>
      rw [looseEquals_texts_iff hanull hbnull (.inl hm)]
      obtain ⟨s, hs⟩ := exists_toText_of_number?_eq_none hm
      cases hn : b.number? with
      | some n =>
          refine iff_of_false ?_ ?_
          · rintro ⟨s, hs, ht⟩
            exact toText_ne_of_mixed hn hm ht hs
          · rintro ⟨place, hp, hq⟩
            exact place?_ne_of_mixed hn hm hanull hq hp
      | none =>
          obtain ⟨t, ht⟩ := exists_toText_of_number?_eq_none hn
          simp [place?_text hanull hm hs, place?_text hbnull hn ht, hs, ht, Place.text_inj,
            String.toList_inj]

/-- Just what reads as NaN has no place. -/
theorem exists_place?_iff :
    (∃ place, a.place? = some place) ↔ a.number? ≠ some (.double .nan) := by
  constructor
  · rintro ⟨place, hplace⟩ hnan
    rw [place?_number hnan, value?_eq_none_iff.mpr rfl] at hplace
    cases hplace
  · exact exists_place?

theorem looseEquals_comm : a.looseEquals b = .ok true ↔ b.looseEquals a = .ok true := by
  rw [looseEquals_iff, looseEquals_iff]
  simp only [and_comm]

theorem looseEquals_trans (hab : a.looseEquals b = .ok true) (hbc : b.looseEquals c = .ok true) :
    a.looseEquals c = .ok true := by
  rw [looseEquals_iff] at hab hbc ⊢
  obtain ⟨place, ha, hb⟩ := hab
  obtain ⟨later, hlater, hc⟩ := hbc
  rw [hb, Option.some.injEq] at hlater
  exact ⟨place, ha, hlater ▸ hc⟩

theorem looseEquals_self_iff :
    a.looseEquals a = .ok true ↔ a.number? ≠ some (.double .nan) := by
  rw [looseEquals_iff, ← exists_place?_iff]
  simp only [and_self]

/-- Loose equality is a partial equivalence. Two values that can be written can be compared, with one
result in either order. What equals a value equals all that the value equals. And just what reads as
NaN does not equal itself. -/
theorem looseEquals_partial_equivalence (ha : a.isPrintable = true) (hb : b.isPrintable = true)
    (c : Value) :
    (∃ same, a.looseEquals b = .ok same ∧ b.looseEquals a = .ok same) ∧
      (a.looseEquals b = .ok true → b.looseEquals c = .ok true → a.looseEquals c = .ok true) ∧
      (a.looseEquals a = .ok true ↔ a.number? ≠ some (.double .nan)) := by
  refine ⟨?_, looseEquals_trans, looseEquals_self_iff⟩
  obtain ⟨forwards, hforwards⟩ := exists_looseEquals ha hb
  obtain ⟨backwards, hbackwards⟩ := exists_looseEquals hb ha
  have hcomm := looseEquals_comm (a := a) (b := b)
  rw [hforwards, hbackwards, Except.ok.injEq, Except.ok.injEq, ← Bool.eq_iff_iff] at hcomm
  exact ⟨forwards, hforwards, hcomm ▸ hbackwards⟩

/-- A text with a grouping mark and blanks, an integer and a double of one value. -/
theorem partial_equivalence_of_one_thousand :
    let a : Value := .text " 1_000.0 "
    let b : Value := .int 1000
    let c : Value := .double (.ofDecimal false 1 3)
    a.looseEquals b = .ok true ∧ b.looseEquals c = .ok true ∧
      (∃ same, a.looseEquals b = .ok same ∧ b.looseEquals a = .ok same) ∧
      a.looseEquals c = .ok true ∧ a.looseEquals a = .ok true := by
  have hab : (Value.text " 1_000.0 ").looseEquals (.int 1000) = .ok true := by decide +kernel
  have hbc : (Value.int 1000).looseEquals (.double (.ofDecimal false 1 3)) = .ok true := by
    decide +kernel
  have printable : (Value.int 1000).isPrintable = true := by decide +kernel
  obtain ⟨hcomm, htrans, hself⟩ := looseEquals_partial_equivalence (a := .text " 1_000.0 ") rfl
    printable (.double (.ofDecimal false 1 3))
  exact ⟨hab, hbc, hcomm, htrans hab hbc, hself.mpr (by decide +kernel)⟩

end Value

end MockSql
