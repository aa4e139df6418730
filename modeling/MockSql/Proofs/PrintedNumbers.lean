/-
# Printed numbers

Whatever a number is written as reads as a number: an integer as its digits, a finite double as digits
with a point or an exponent, an infinity and NaN as their words. So the text of a number is never the
text of something that is none.
-/

import Mathlib.Data.List.TakeWhile
import MockSql.Proofs.OwnLiterals

namespace MockSql

open MockSql.Text MockSql.Number MockSql.Literal

namespace Double

/-- The end of an unsigned number: nothing, or an exponent. -/
def IsExponentText (text : List Char) : Prop :=
  text = [] ∨ ∃ exponent : Int, text = 'e' :: exponentText exponent

/-- The text of an unsigned number: digits, perhaps a point and digits behind it, perhaps an
exponent. -/
inductive IsNumberText : List Char → Prop
  | whole {digits exponent : List Char} (hne : digits ≠ []) (hdigits : digits ⊆ asciiDigits)
      (isExponent : IsExponentText exponent) : IsNumberText (digits ++ exponent)
  | point {digits fraction exponent : List Char} (hne : digits ≠ []) (hdigits : digits ⊆ asciiDigits)
      (hfraction : fraction ⊆ asciiDigits) (isExponent : IsExponentText exponent) :
      IsNumberText (digits ++ '.' :: (fraction ++ exponent))

theorem isDigit_of_subset {digits : List Char} (hdigits : digits ⊆ asciiDigits) :
    ∀ c ∈ digits, c.isDigit = true := by
  have hall : ∀ c ∈ asciiDigits, c.isDigit = true := forall_mem_of_all (by decide)
  exact fun c hc => hall c (hdigits hc)

theorem natDigits_subset (n : Nat) : natDigits n ⊆ asciiDigits :=
  fun _ => mem_asciiDigits_of_mem_natDigits

/-- An exponent is written as a sign and digits. -/
theorem exists_exponentText (exponent : Int) :
    ∃ sign digits, (sign = '-' ∨ sign = '+') ∧ digits ≠ [] ∧ digits ⊆ asciiDigits ∧
      exponentText exponent = sign :: digits := by
  have hdigits := natDigits_subset exponent.natAbs
  have hpadded : (if (natDigits exponent.natAbs).length < 2 then '0' :: natDigits exponent.natAbs
      else natDigits exponent.natAbs) ⊆ asciiDigits := by
    split
    next => exact List.cons_subset.mpr ⟨by decide, hdigits⟩
    next => exact hdigits
  refine ⟨_, _, ?_, ?_, hpadded, rfl⟩
  · split <;> simp
  · split
    next => exact List.cons_ne_nil _ _
    next => exact Nat.toDigits_ne_nil

namespace IsExponentText

variable {text : List Char}

theorem exists_readExponent? (isExponent : IsExponentText text) :
    ∃ exponent, readExponent? text = some exponent := by
  rcases isExponent with rfl | ⟨exponent, rfl⟩
  · exact ⟨0, rfl⟩
  · obtain ⟨sign, digits, hsign, hne, hdigits, htext⟩ := exists_exponentText exponent
    have hall : digits.all Char.isDigit = true := List.all_eq_true.mpr (isDigit_of_subset hdigits)
    rw [htext]
    rcases hsign with rfl | rfl
    · exact ⟨signed true (ofDigits digits), by simp [readExponent?, takeSign, hne, hall]⟩
    · exact ⟨signed false (ofDigits digits), by simp [readExponent?, takeSign, hne, hall]⟩

/-- An exponent does not begin with a digit or a point. -/
theorem head (isExponent : IsExponentText text) :
    ∀ c ∈ text.head?, c.isDigit = false ∧ c ≠ '.' := by
  rcases isExponent with rfl | ⟨exponent, rfl⟩
  · exact fun c hc => nomatch hc
  · rintro c ⟨⟩
    decide

theorem subset (isExponent : IsExponentText text) : text ⊆ numberChars := by
  rcases isExponent with rfl | ⟨exponent, rfl⟩
  · exact List.nil_subset _
  · obtain ⟨sign, digits, hsign, -, hdigits, htext⟩ := exists_exponentText exponent
    rw [htext]
    refine List.cons_subset.mpr ⟨by decide, List.cons_subset.mpr ⟨?_, ?_⟩⟩
    · rcases hsign with rfl | rfl <;> decide
    · exact List.subset_append_of_subset_left _ hdigits

end IsExponentText

namespace IsNumberText

variable {text : List Char}

theorem subset (isNumber : IsNumberText text) : text ⊆ numberChars := by
  have hkept : asciiDigits ⊆ numberChars := List.subset_append_left _ _
  cases isNumber with
  | whole hne hdigits isExponent =>
      exact List.append_subset.mpr ⟨List.Subset.trans hdigits hkept, isExponent.subset⟩
  | point hne hdigits hfraction isExponent =>
      refine List.append_subset.mpr ⟨List.Subset.trans hdigits hkept, ?_⟩
      refine List.cons_subset.mpr ⟨by decide, List.append_subset.mpr ⟨?_, isExponent.subset⟩⟩
      exact List.Subset.trans hfraction hkept

/-- The text of an unsigned number begins with a digit, so no sign is taken off it. -/
theorem takeSign_eq (isNumber : IsNumberText text) : takeSign text = (false, text) := by
  have hfirst : ∃ c later, text = c :: later ∧ c ∈ asciiDigits := by
    cases isNumber with
    | whole hne hdigits | point hne hdigits =>
        obtain ⟨c, later, rfl⟩ := List.exists_cons_of_ne_nil hne
        exact ⟨c, _, List.cons_append, hdigits List.mem_cons_self⟩
  have hsigns : ∀ c ∈ asciiDigits, c ≠ '-' ∧ c ≠ '+' := forall_mem_of_all (by decide)
  obtain ⟨c, later, rfl, hc⟩ := hfirst
  simp [takeSign, hsigns c hc]

theorem exists_readUnsigned? (isNumber : IsNumberText text) (negative : Bool) :
    ∃ x, readUnsigned? negative text = some x := by
  cases isNumber with
  | @whole digits exponent hne hdigits isExponent =>
      have hrun := isDigit_of_subset hdigits
      have hend : ∀ c ∈ exponent.head?, c.isDigit = false := fun c hc => (isExponent.head c hc).1
      obtain ⟨places, hplaces⟩ := isExponent.exists_readExponent?
      simp only [readUnsigned?, takeWhile_run_append hrun hend, dropWhile_run_append hrun hend]
      split
      next more => exact absurd rfl (isExponent.head '.' rfl).2
      next => simp [hne, hplaces]
  | @point digits fraction exponent hne hdigits hfraction isExponent =>
      have hrun := isDigit_of_subset hdigits
      have hpoint : ∀ c ∈ ('.' :: (fraction ++ exponent)).head?, c.isDigit = false := by
        rintro c ⟨⟩
        decide
      have hend : ∀ c ∈ exponent.head?, c.isDigit = false := fun c hc => (isExponent.head c hc).1
      obtain ⟨places, hplaces⟩ := isExponent.exists_readExponent?
      simp [readUnsigned?, takeWhile_run_append hrun hpoint, dropWhile_run_append hrun hpoint,
        dropWhile_run_append (isDigit_of_subset hfraction) hend, hne, hplaces]

/-- The text of an unsigned number reads as a number, with a minus sign before it or without. -/
theorem exists_read? (isNumber : IsNumberText text) (negative : Bool) :
    ∃ x, read? ((if negative then ['-'] else []) ++ text) = some x := by
  have hsubset : (if negative then ['-'] else []) ++ text ⊆ numberChars := by
    refine List.append_subset.mpr ⟨?_, isNumber.subset⟩
    cases negative <;> decide
  have hkept : dropFinalBreak ((if negative then ['-'] else []) ++ text) =
      (if negative then ['-'] else []) ++ text := by
    have hbreak : ((if negative then ['-'] else []) ++ text).getLast? ≠ some '\n' := by
      intro hlast
      have hforeign : '\n' ∉ numberChars := by decide
      exact hforeign (hsubset (List.mem_of_getLast? hlast))
    rw [dropFinalBreak, beq_eq_false_iff_ne.mpr hbreak]
    rfl
  have hplain : text.map plainDigit = text := by
    have hchars : ∀ c ∈ numberChars, plainDigit c = c := forall_mem_of_all (by decide +kernel)
    exact (List.map_congr_left fun c hc => hchars c (isNumber.subset hc)).trans (List.map_id' text)
  have hsign : takeSign ((if negative then ['-'] else []) ++ text) = (negative, text) := by
    cases negative with
    | true => rfl
    | false => exact isNumber.takeSign_eq
  obtain ⟨x, hx⟩ := isNumber.exists_readUnsigned? negative
  refine ⟨x, read?_of_readUnsigned? ?_⟩
  rw [hkept, hsign, hplain]
  exact hx

end IsNumberText

/-- Digits are laid out as the text of a number. If there are none, zeros take their place, as long as
the point stands behind the first place. -/
theorem isNumberText_layOut {digits : List Char} {place : Int} (hdigits : digits ⊆ asciiDigits)
    (hne : digits ≠ [] ∨ place = 1) : IsNumberText (layOut digits place) := by
  have hzeros (count : Nat) : List.replicate count '0' ⊆ asciiDigits := by
    intro c hc
    rw [List.eq_of_mem_replicate hc]
    decide
  have hnone : IsExponentText [] := .inl rfl
  unfold layOut
  split
  next hpositional =>
    split
    next hsmall =>
      have hfraction : List.replicate (-place).toNat '0' ++ digits ⊆ asciiDigits :=
        List.append_subset.mpr ⟨hzeros _, hdigits⟩
      simpa using IsNumberText.point (List.cons_ne_nil '0' []) (by decide) hfraction hnone
    next hlarge =>
      split
      next hshort =>
        have hwhole : digits ++ List.replicate (place.toNat - digits.length) '0' ≠ [] := by
          rw [← List.length_pos_iff]
          simp only [List.length_append, List.length_replicate]
          omega
        have hsubset := List.append_subset.mpr ⟨hdigits, hzeros (place.toNat - digits.length)⟩
        have hfraction : ['0'] ⊆ asciiDigits := by decide
        simpa using IsNumberText.point hwhole hsubset hfraction hnone
      next hlong =>
        have hwhole : digits.take place.toNat ≠ [] := by
          rw [← List.length_pos_iff, List.length_take]
          omega
        have hsubset := List.Subset.trans (List.take_subset place.toNat digits) hdigits
        have hfraction := List.Subset.trans (List.drop_subset place.toNat digits) hdigits
        simpa using IsNumberText.point hwhole hsubset hfraction hnone
  next hscientific =>
    have hfirst : digits ≠ [] := hne.resolve_right (by rintro rfl; exact hscientific (by decide))
    have hwhole : digits.take 1 ≠ [] := by simpa using hfirst
    have hsubset := List.Subset.trans (List.take_subset 1 digits) hdigits
    have hfraction := List.Subset.trans (List.drop_subset 1 digits) hdigits
    have hexponent : IsExponentText ('e' :: exponentText (place - 1)) := .inr ⟨_, rfl⟩
    dsimp only
    split
    next => simpa using IsNumberText.whole hwhole hsubset hexponent
    next => simpa using IsNumberText.point hwhole hsubset hfraction hexponent

theorem dropTrailingZeros_subset (digits : List Char) : dropTrailingZeros digits ⊆ digits := by
  intro c hc
  have hreverse := List.mem_reverse.mp hc
  exact List.mem_reverse.mp ((List.dropWhile_suffix _).subset hreverse)

/-- A positive number has digits other than zero. -/
theorem dropTrailingZeros_natDigits_ne_nil {n : Nat} (hn : n ≠ 0) :
    dropTrailingZeros (natDigits n) ≠ [] := by
  intro hnil
  have hzeros : ∀ c ∈ natDigits n, c = '0' := by
    have hall : (natDigits n).reverse.dropWhile (· == '0') = [] := List.reverse_eq_nil_iff.mp hnil
    rw [List.dropWhile_eq_nil_iff] at hall
    exact fun c hc => beq_iff_eq.mp (hall c (List.mem_reverse.mpr hc))
  have hreplicate : natDigits n = List.replicate (natDigits n).length '0' :=
    List.eq_replicate_of_mem hzeros
  have hvalue : ∀ count, ofDigits (List.replicate count '0') = 0 := by
    intro count
    induction count with
    | zero => rfl
    | succ count ih => exact ih
  have hread := ofDigits_natDigits n
  rw [hreplicate, hvalue] at hread
  exact hn hread.symm

theorem ofDecimal_zero (negative : Bool) (exponent : Int) :
    ofDecimal negative 0 exponent = .finite negative 0 0 := by
  simp [ofDecimal]

/-- A decimal that is found for a double reads back as it. -/
theorem ofDecimal_of_nearestWithDigits? {double : Double} {units count : Nat} {decimal : Decimal}
    (h : nearestWithDigits? double units count = some decimal) :
    ofDecimal false decimal.digits decimal.exponent = double := by
  have hfirst {digits : Nat} {exponent : Int} {otherwise : Option Decimal}
      (hfound : (if (ofDecimal false digits exponent == double) = true then
        some ⟨digits, exponent⟩ else otherwise) = some decimal) :
      ofDecimal false decimal.digits decimal.exponent = double ∨ otherwise = some decimal := by
    split at hfound
    next hreads =>
      cases hfound
      exact .inl (beq_iff_eq.mp hreads)
    next => exact .inr hfound
  obtain ⟨exponent, hexponent⟩ : ∃ exponent, leadingPlace units - count = exponent := ⟨_, rfl⟩
  -- Only the function without its arguments is opened: to match the pair in the open body, the
  -- kernel would compute the place of the first digit.
  generalize hfunction : nearestWithDigits? = find at h
  delta nearestWithDigits? at hfunction
  subst hfunction
  beta_reduce at h
  rw [hexponent] at h
  dsimp only at h
  rcases hfirst h with hdouble | h
  · exact hdouble
  rcases hfirst h with hdouble | h
  · exact hdouble
  rcases hfirst h with hdouble | h
  · exact hdouble
  · cases h

/-- The shortest decimal of a positive double has a positive digit, or is the decimal that stands for
none. -/
theorem shortest_digits {double : Double} {units : Nat} (hdouble : double ≠ .finite false 0 0) :
    (shortest double units).digits ≠ 0 ∨ shortest double units = ⟨0, 0⟩ := by
  unfold shortest
  cases hsome : (List.range' 1 17).findSome? (nearestWithDigits? double units) with
  | none => exact .inr rfl
  | some decimal =>
      obtain ⟨count, -, hcount⟩ := List.exists_of_findSome?_eq_some hsome
      refine .inl fun (hzero : decimal.digits = 0) => hdouble ?_
      have hread := ofDecimal_of_nearestWithDigits? hcount
      rw [hzero, ofDecimal_zero] at hread
      exact hread.symm

theorem isNumberText_magnitudeText (exponent : Fin 2047) (fraction : Fin fractionCount) :
    IsNumberText (magnitudeText (.finite false exponent fraction) (magnitude exponent fraction)) := by
  unfold magnitudeText
  split
  next =>
    have hzero : ['0'] ⊆ asciiDigits := by decide
    exact IsNumberText.point (List.cons_ne_nil '0' []) hzero hzero (.inl rfl)
  next hpositive =>
    have hdouble : Double.finite false exponent fraction ≠ .finite false 0 0 := by
      intro heq
      cases heq
      exact hpositive rfl
    generalize magnitude exponent fraction = units at hpositive ⊢
    have hsubset (n : Nat) : dropTrailingZeros (natDigits n) ⊆ asciiDigits :=
      List.Subset.trans (dropTrailingZeros_subset _) (natDigits_subset n)
    rcases shortest_digits hdouble with hdigits | hnone
    · exact isNumberText_layOut (hsubset _) (.inl (dropTrailingZeros_natDigits_ne_nil hdigits))
    · rw [hnone]
      exact isNumberText_layOut (hsubset 0) (.inr rfl)

/-- The text of a double reads as a number. -/
theorem exists_read?_toText (x : Double) : ∃ y, read? x.toText = some y := by
  cases x with
  | nan => exact ⟨.nan, by decide +kernel⟩
  | infinite negative =>
      cases negative with
      | true => exact ⟨.infinite true, by decide +kernel⟩
      | false => exact ⟨.infinite false, by decide +kernel⟩
  | finite negative exponent fraction =>
      exact (isNumberText_magnitudeText exponent fraction).exists_read? negative

/-- The digits of an integer read as a number. -/
theorem exists_read?_intDigits (n : Int) : ∃ y, read? (intDigits n) = some y := by
  have hdigit : ∀ c ∈ asciiDigits, isDigit c = true := forall_mem_of_all (by decide +kernel)
  have hsign : takeSign (dropFinalBreak (intDigits n)) = (decide (n < 0), natDigits n.natAbs) := by
    rw [dropFinalBreak_intDigits, takeSign_intDigits]
  exact ⟨_, read?_of_digits hsign Nat.toDigits_ne_nil
    fun c hc => hdigit c (natDigits_subset n.natAbs hc)⟩

end Double

/-- The text of a number reads as a number. -/
theorem Value.exists_number?_toText {value : Value} {n : Number} {text : String}
    (hnumber : value.number? = some n) (htext : value.toText = .ok text) :
    ∃ m, (Value.text text).number? = some m := by
  have hread {chars : List Char} (h : ∃ y, Double.read? chars = some y) :
      ∃ m, (Value.text (String.ofList chars)).number? = some m := by
    obtain ⟨y, hy⟩ := h
    exact ⟨.double y, Value.number?_text (by rw [String.toList_ofList]; exact hy)⟩
  cases value with
  | null | bool => cases hnumber
  | int n =>
      simp only [toText, intText] at htext
      split at htext
      next =>
        cases htext
        exact hread (Double.exists_read?_intDigits n)
      next => cases htext
  | double x =>
      cases htext
      exact hread (Double.exists_read?_toText x)
  | text s =>
      cases htext
      exact ⟨n, hnumber⟩

end MockSql
