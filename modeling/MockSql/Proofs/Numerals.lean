/-
# Integers as literals

The digits that an integer is written with are read as the same integer, as long as there are not
too many of them, and nothing about them can be mistaken for a quote, a separator or a word. A text
with an equals sign in it is never read as a number.
-/

import MockSql.Literal
import MockSql.Proofs.Trim

namespace MockSql

open MockSql.Text

/-- A property of the members of a fixed list is checked one by one. -/
theorem forall_mem_of_all {α : Type} {list : List α} {holds : α → Prop} [DecidablePred holds]
    (hall : list.all (fun item => decide (holds item)) = true) : ∀ item ∈ list, holds item := by
  simpa using hall

/-- The ten ASCII digits. -/
def asciiDigits : List Char :=
  "0123456789".toList

/-- The characters of a written integer. -/
def numeralChars : List Char :=
  '-' :: asciiDigits

namespace Number

theorem mem_asciiDigits_of_isDigit {c : Char} (hdigit : c.isDigit = true) : c ∈ asciiDigits := by
  have hbounds : 48 ≤ c.toNat ∧ c.toNat ≤ 57 := Char.isDigit_iff_toNat.mp hdigit
  have hcodes : ∀ code < 58, 48 ≤ code → Char.ofNat code ∈ asciiDigits := by decide
  have hmem := hcodes c.toNat (by omega) hbounds.1
  rwa [Char.ofNat_toNat] at hmem

theorem mem_asciiDigits_of_mem_natDigits {n : Nat} {c : Char} (hc : c ∈ natDigits n) :
    c ∈ asciiDigits :=
  mem_asciiDigits_of_isDigit (Nat.isDigit_of_mem_toDigits (by decide) (by decide) hc)

theorem isDigit_of_mem_natDigits {n : Nat} {c : Char} (hc : c ∈ natDigits n) : isDigit c = true := by
  have hdigit : ∀ c ∈ asciiDigits, isDigit c = true := forall_mem_of_all (by decide +kernel)
  exact hdigit c (mem_asciiDigits_of_mem_natDigits hc)

theorem mem_numeralChars {n : Int} {c : Char} (hc : c ∈ intDigits n) : c ∈ numeralChars := by
  unfold intDigits at hc
  split at hc
  next =>
    rcases List.mem_cons.mp hc with rfl | hc
    · exact List.mem_cons_self
    · exact List.mem_cons_of_mem _ (mem_asciiDigits_of_mem_natDigits hc)
  next => exact List.mem_cons_of_mem _ (mem_asciiDigits_of_mem_natDigits hc)

theorem intDigits_ne_nil (n : Int) : intDigits n ≠ [] := by
  unfold intDigits
  split
  next => exact List.cons_ne_nil _ _
  next => exact Nat.toDigits_ne_nil

/-- ASCII digits are read by place value. -/
theorem digitsFrom_eq_ofDigitChars {digits : List Char} (hdigits : ∀ c ∈ digits, c ∈ asciiDigits)
    (start : Nat) : digitsFrom start digits = Nat.ofDigitChars 10 digits start := by
  have hvalue : ∀ c ∈ asciiDigits, (digitValue? c).getD 0 = c.toNat - '0'.toNat :=
    forall_mem_of_all (by decide +kernel)
  induction digits generalizing start with
  | nil => rfl
  | cons c rest ih =>
      have hrest := ih (fun d hd => hdigits d (List.mem_cons_of_mem _ hd))
      have hstep : start * 10 + (digitValue? c).getD 0 = 10 * start + (c.toNat - '0'.toNat) := by
        rw [hvalue c (hdigits c List.mem_cons_self), Nat.mul_comm]
      rw [digitsFrom, List.foldl_cons, hstep, Nat.ofDigitChars_cons, ← hrest]
      rfl

/-- Reading the digits of a whole number gives the number. -/
theorem ofDigits_natDigits (n : Nat) : ofDigits (natDigits n) = n := by
  rw [ofDigits, digitsFrom_eq_ofDigitChars fun c => mem_asciiDigits_of_mem_natDigits]
  exact Nat.ofDigitChars_ten_toDigits

end Number

namespace Literal

open Number

/-- The sign and the digits of a written integer. -/
theorem takeSign_intDigits (n : Int) :
    takeSign (intDigits n) = (decide (n < 0), natDigits n.natAbs) := by
  unfold intDigits
  split
  next hneg => simp [takeSign, hneg]
  next hpos =>
    have hfirst : ∀ c ∈ asciiDigits, c ≠ '-' ∧ c ≠ '+' := forall_mem_of_all (by decide)
    cases hdigits : natDigits n.natAbs with
    | nil => exact absurd hdigits Nat.toDigits_ne_nil
    | cons c rest =>
        have hc := hfirst c (mem_asciiDigits_of_mem_natDigits (hdigits ▸ List.mem_cons_self))
        simp [takeSign, hc.1, hc.2, hpos]

theorem dropFinalBreak_intDigits (n : Int) : dropFinalBreak (intDigits n) = intDigits n := by
  have hbreak : ∀ c ∈ numeralChars, c ≠ '\n' := forall_mem_of_all (by decide)
  have hlast : ((intDigits n).getLast? == some '\n') = false := by
    cases hlast : (intDigits n).getLast? with
    | none => rfl
    | some c => simp [hbreak c (mem_numeralChars (List.mem_of_getLast? hlast))]
  rw [dropFinalBreak, hlast]
  rfl

theorem signed_natAbs (n : Int) : signed (decide (n < 0)) n.natAbs = n := by
  by_cases hneg : n < 0
  · simp only [signed, hneg, decide_true, if_true]
    omega
  · simp only [signed, hneg, decide_false, Bool.false_eq_true, if_false]
    omega

theorem isEmpty_natDigits (n : Nat) : (natDigits n).isEmpty = false :=
  List.isEmpty_eq_false_iff.mpr Nat.toDigits_ne_nil

/-- A sign and few enough digits are read as the integer that they write. -/
theorem readInt_natDigits {n : Int} (printable : isPrintable n = true) :
    readInt (decide (n < 0)) (natDigits n.natAbs) = .ok n := by
  have hshort : ¬digitLimit < (natDigits n.natAbs).length :=
    Nat.not_lt.mpr (of_decide_eq_true printable)
  rw [readInt, if_neg hshort, ofDigits_natDigits, signed_natAbs]

/-- An integer with few enough digits is read as itself. -/
theorem coerceNumber_intDigits {n : Int} (printable : isPrintable n = true) :
    coerceNumber (intDigits n) = .ok (.int n) := by
  have hall : (natDigits n.natAbs).all isDigit = true :=
    List.all_eq_true.mpr fun c hc => isDigit_of_mem_natDigits hc
  simp only [coerceNumber, dropFinalBreak_intDigits, takeSign_intDigits, isEmpty_natDigits, hall,
    readInt_natDigits printable, Bool.not_false, Bool.and_self, if_true]
  rfl

/-- And so is one that a text begins with. -/
theorem leadingInt_intDigits {n : Int} (printable : isPrintable n = true) :
    leadingInt (intDigits n) = .ok (some n) := by
  have hblank : ∀ c ∈ numeralChars, isBlank c = false := forall_mem_of_all (by decide +kernel)
  have htrim : trimStart (intDigits n) = intDigits n :=
    dropWhile_eq_self fun c hc => hblank c (mem_numeralChars (List.mem_of_mem_head? hc))
  have hdigits : (natDigits n.natAbs).takeWhile isDigit = natDigits n.natAbs := by
    simpa using @takeWhile_run_append isDigit (natDigits n.natAbs) []
      (fun c hc => isDigit_of_mem_natDigits hc) (by simp)
  simp only [leadingInt, htrim, takeSign_intDigits, hdigits, isEmpty_natDigits,
    readInt_natDigits printable, Bool.false_eq_true, if_false]
  rfl

/-- The characters of a number in plain digits. -/
def numberChars : List Char :=
  asciiDigits ++ ".eE+-".toList

section Foreign

variable {c : Char} {text : List Char} (foreign : c ∉ numberChars)
include foreign

theorem not_isDigit_of_foreign : c.isDigit = false := by
  cases hdigit : c.isDigit with
  | false => rfl
  | true => exact absurd (List.mem_append_left _ (mem_asciiDigits_of_isDigit hdigit)) foreign

theorem ne_of_foreign {d : Char} (hd : d ∈ numberChars) : c ≠ d := by
  rintro rfl
  exact foreign hd

theorem mem_takeSign (hmem : c ∈ text) : c ∈ (takeSign text).2 := by
  unfold takeSign
  split
  next => exact (List.mem_cons.mp hmem).resolve_left (ne_of_foreign foreign (by decide))
  next => exact (List.mem_cons.mp hmem).resolve_left (ne_of_foreign foreign (by decide))
  next => exact hmem

theorem readExponent?_eq_none (hmem : c ∈ text) : Double.readExponent? text = none := by
  cases text with
  | nil => cases hmem
  | cons mark rest =>
      rcases List.mem_cons.mp hmem with rfl | hrest
      · have hsmall := ne_of_foreign foreign (d := 'e') (by decide)
        have hlarge := ne_of_foreign foreign (d := 'E') (by decide)
        simp [Double.readExponent?, hsmall, hlarge]
      · have hdigits : (takeSign rest).2.all Char.isDigit = false :=
          List.all_eq_false.mpr ⟨c, mem_takeSign foreign hrest, by
            simp [not_isDigit_of_foreign foreign]⟩
        simp [Double.readExponent?, hdigits]

theorem readUnsigned?_eq_none (negative : Bool) (hmem : c ∈ text) :
    Double.readUnsigned? negative text = none := by
  have hdigit := not_isDigit_of_foreign foreign
  have hafter := mem_dropWhile hmem hdigit
  simp only [Double.readUnsigned?]
  generalize text.dropWhile Char.isDigit = afterWhole at hafter ⊢
  split
  next more =>
    have hmore := (List.mem_cons.mp hafter).resolve_left (ne_of_foreign foreign (by decide))
    rw [readExponent?_eq_none foreign (mem_dropWhile hmore hdigit)]
    split <;> rfl
  next =>
    rw [readExponent?_eq_none foreign hafter]
    split <;> rfl

end Foreign

/-- A text with an equals sign in it is read as itself. -/
theorem coerceNumber_of_mem {text : List Char} (hsign : '=' ∈ text) :
    coerceNumber text = .ok (.text (String.ofList text)) := by
  have foreign : '=' ∉ numberChars := by decide
  have hkept : '=' ∈ dropFinalBreak text := by
    unfold dropFinalBreak
    split
    next hbreak =>
      obtain ⟨front, rfl⟩ := List.getLast?_eq_some_iff.mp (beq_iff_eq.mp hbreak)
      simpa using hsign
    next => exact hsign
  have hunsigned := mem_takeSign foreign hkept
  have hdigits : (takeSign (dropFinalBreak text)).2.all isDigit = false :=
    List.all_eq_false.mpr ⟨'=', hunsigned, by decide +kernel⟩
  have hplain : '=' ∈ (takeSign (dropFinalBreak text)).2.map Double.plainDigit :=
    List.mem_map.mpr ⟨'=', hunsigned, by decide +kernel⟩
  simp only [coerceNumber, hdigits, Bool.and_false, Bool.false_eq_true, if_false,
    readUnsigned?_eq_none foreign _ hplain]

/-- A text that is read as a text is read as itself. -/
theorem coerceNumber_eq_text {text : List Char} {s : String}
    (h : coerceNumber text = .ok (.text s)) : s = String.ofList text := by
  simp only [coerceNumber] at h
  split at h
  next =>
    cases hint : readInt (takeSign (dropFinalBreak text)).1 (takeSign (dropFinalBreak text)).2 with
    | error fault =>
        rw [hint] at h
        cases h
    | ok n =>
        rw [hint] at h
        cases h
  next =>
    split at h
    next => cases h
    next =>
      cases h
      rfl

end Literal

end MockSql
