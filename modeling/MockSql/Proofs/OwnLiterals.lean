/-
# Texts and their own literals

A text in a cell is read as a number in one way and the literal of an update in another: the literal
of a whole number stands for exactly that number, and the cell is read as the nearest double. On
every other text the two readings agree. So a text is found by its own literal unless it is a whole
number that no double is equal to, or is read as NaN, which equals nothing, or has too many digits to
be read.
-/

import MockSql.Proofs.NearestDoubles
import MockSql.Proofs.Updates

namespace MockSql

open MockSql.Text MockSql.Number MockSql.Literal

namespace Double

/-- A digit becomes the ASCII digit of its worth. -/
theorem plainDigit_of_isDigit {c : Char} (hdigit : isDigit c = true) :
    plainDigit c ∈ asciiDigits ∧ digitValue? (plainDigit c) = digitValue? c := by
  have hvalues : ∀ value < 10, Char.ofNat (value + 48) ∈ asciiDigits ∧
      digitValue? (Char.ofNat (value + 48)) = some value := by decide +kernel
  obtain ⟨value, hvalue⟩ := Option.isSome_iff_exists.mp hdigit
  simp only [plainDigit, hvalue]
  exact hvalues value (digitValue?_lt hvalue)

theorem plainDigit_of_not_isDigit {c : Char} (hdigit : isDigit c = false) : plainDigit c = c := by
  have hnone : digitValue? c = none := by simpa [isDigit] using hdigit
  rw [plainDigit, hnone]

theorem digitValue?_plainDigit (c : Char) : digitValue? (plainDigit c) = digitValue? c := by
  cases hdigit : isDigit c with
  | true => exact (plainDigit_of_isDigit hdigit).2
  | false => rw [plainDigit_of_not_isDigit hdigit]

/-- Only the signs themselves become signs. -/
theorem plainDigit_eq_iff {c mark : Char} (hmark : mark ∈ ['-', '+']) :
    plainDigit c = mark ↔ c = mark := by
  have hmarks : ∀ mark ∈ ['-', '+'], mark ∉ asciiDigits ∧ plainDigit mark = mark :=
    forall_mem_of_all (by decide +kernel)
  cases hdigit : isDigit c with
  | false => rw [plainDigit_of_not_isDigit hdigit]
  | true =>
      constructor
      · rintro rfl
        exact absurd (plainDigit_of_isDigit hdigit).1 (hmarks _ hmark).1
      · rintro rfl
        exact (hmarks c hmark).2

/-- White space does not become a character of a number. -/
theorem not_isBlank_of_plainDigit {c : Char} (hplain : plainDigit c ∈ numberChars) :
    isBlank c = false := by
  have hcodes : ∀ code ∈ blankCodes, plainDigit (Char.ofNat code) ∉ numberChars := by
    decide +kernel
  cases hblank : isBlank c with
  | false => rfl
  | true =>
      have hcode := hcodes c.toNat (mem_blankCodes_of_isBlank hblank)
      rw [Char.ofNat_toNat] at hcode
      exact absurd hplain hcode

theorem ofDigits_map_plainDigit (digits : List Char) :
    ofDigits (digits.map plainDigit) = ofDigits digits := by
  simp only [ofDigits, digitsFrom, List.foldl_map, digitValue?_plainDigit]

/-- The sign is the same in plain digits. -/
theorem takeSign_map_plainDigit (text : List Char) :
    takeSign (text.map plainDigit) = ((takeSign text).1, (takeSign text).2.map plainDigit) := by
  cases text with
  | nil => rfl
  | cons c rest =>
      have hminus := @plainDigit_eq_iff c '-' (by decide)
      have hplus := @plainDigit_eq_iff c '+' (by decide)
      by_cases hc : c = '-'
      · subst hc
        rw [List.map_cons, hminus.mpr rfl]
        rfl
      by_cases hc' : c = '+'
      · subst hc'
        rw [List.map_cons, hplus.mpr rfl]
        rfl
      · simp [takeSign, hminus, hplus, hc, hc']

/-- Where there is no low line, none is left out. -/
theorem joinDigits_eq_self {text : List Char} (hplain : '_' ∉ text) (afterDigit : Bool) :
    joinDigits afterDigit text = some text := by
  induction text generalizing afterDigit with
  | nil => rfl
  | cons c rest ih =>
      rw [List.mem_cons, not_or] at hplain
      rw [joinDigits, ih hplain.2]
      · simp [Ne.symm hplain.1]
      · rintro d later rfl
        exact absurd rfl hplain.1

/-- A run of plain digits is a whole number. -/
theorem readUnsigned?_digits (negative : Bool) {digits : List Char} (hne : digits ≠ [])
    (hdigits : ∀ c ∈ digits, c.isDigit = true) :
    readUnsigned? negative digits = some (ofDecimal negative (ofDigits digits) 0) := by
  have htaken := @takeWhile_run_append Char.isDigit digits [] hdigits (by simp)
  have hdropped := @dropWhile_run_append Char.isDigit digits [] hdigits (by simp)
  rw [List.append_nil] at htaken hdropped
  simp [readUnsigned?, htaken, hdropped, hne, readExponent?]

theorem readUnsigned?_ne_nan {negative : Bool} {text : List Char} {x : Double}
    (h : readUnsigned? negative text = some x) : x ≠ .nan := by
  have hdecimal {digits : Nat} {places : Int} {exponent : Option Int}
      (hread : (exponent.map fun e => ofDecimal negative digits (e - places)) = some x) :
      x ≠ .nan := by
    obtain ⟨e, -, rfl⟩ := Option.map_eq_some_iff.mp hread
    exact ofDecimal_ne_nan _ _ _
  simp only [readUnsigned?] at h
  split at h
  next =>
    split at h
    next => cases h
    next => exact hdecimal h
  next =>
    split at h
    next => cases h
    next => exact hdecimal h

/-- What is a number in a literal is the same number in a cell. -/
theorem read?_of_readUnsigned? {text : List Char} {x : Double}
    (h : readUnsigned? (takeSign (dropFinalBreak text)).1
      ((takeSign (dropFinalBreak text)).2.map plainDigit) = some x) : read? text = some x := by
  have hchars : ∀ c ∈ dropFinalBreak text, plainDigit c ∈ numberChars := by
    have hkept : ∀ c ∈ numberChars, plainDigit c ∈ numberChars :=
      forall_mem_of_all (by decide +kernel)
    intro c hc
    by_contra foreign
    have hunsigned := mem_takeSign (fun hplain => foreign (hkept c hplain)) hc
    have hnone := readUnsigned?_eq_none foreign (takeSign (dropFinalBreak text)).1
      (List.mem_map_of_mem hunsigned)
    cases h.symm.trans hnone
  have htrim : trim text = dropFinalBreak text := by
    have hkept : trim (dropFinalBreak text) = dropFinalBreak text :=
      stripWhile_eq_self_of_forall fun c hc => not_isBlank_of_plainDigit (hchars c hc)
    rw [← hkept]
    unfold dropFinalBreak
    split
    next hbreak =>
      obtain ⟨front, rfl⟩ := List.getLast?_eq_some_iff.mp (beq_iff_eq.mp hbreak)
      rw [List.dropLast_concat]
      exact stripWhile_append_outer (forall_mem_of_all (by decide)) front
    next => rfl
  have hplain : '_' ∉ (dropFinalBreak text).map plainDigit := by
    intro hmem
    obtain ⟨c, hc, heq⟩ := List.mem_map.mp hmem
    have hforeign : '_' ∉ numberChars := by decide
    exact hforeign (heq ▸ hchars c hc)
  rw [read?, htrim, joinDigits_eq_self hplain, Option.bind_some, takeSign_map_plainDigit]
  simp only [h, Option.some_or]

end Double

theorem Value.number?_text {s : String} {x : Double} (h : Double.read? s.toList = some x) :
    (Value.text s).number? = some (.double x) := by
  rw [number?, h]
  rfl

/-- What the literal of a text is read as, beside what a cell with the text is read as. -/
inductive ReadsAs (s : String) : Value → Prop
  | whole {negative : Bool} {n : Nat}
      (cell : (Value.text s).number? = some (.double (.ofDecimal negative n 0))) :
      ReadsAs s (.int (signed negative n))
  | double {x : Double} (isNumber : x ≠ .nan) (cell : (Value.text s).number? = some (.double x)) :
      ReadsAs s (.double x)
  | text : ReadsAs s (.text s)

/-- A run of digits is a whole number in a cell. -/
theorem read?_of_digits {text digits : List Char} {negative : Bool}
    (hsign : takeSign (dropFinalBreak text) = (negative, digits)) (hne : digits ≠ [])
    (hdigits : ∀ c ∈ digits, isDigit c = true) :
    Double.read? text = some (.ofDecimal negative (ofDigits digits) 0) := by
  have hascii : ∀ c ∈ asciiDigits, c.isDigit = true := forall_mem_of_all (by decide)
  have hplain : ∀ c ∈ digits.map Double.plainDigit, c.isDigit = true :=
    List.forall_mem_map.mpr fun c hc => hascii _ (Double.plainDigit_of_isDigit (hdigits c hc)).1
  have hread := Double.readUnsigned?_digits negative (by simpa using hne) hplain
  rw [Double.ofDigits_map_plainDigit] at hread
  apply Double.read?_of_readUnsigned?
  rw [hsign, hread]

/-- The two readings of a text correspond. -/
theorem readsAs_of_coerceNumber {s : String} {value : Value}
    (h : coerceNumber s.toList = .ok value) : ReadsAs s value := by
  simp only [coerceNumber] at h
  split at h
  next hall =>
    rw [Bool.and_eq_true, Bool.not_eq_true', List.all_eq_true] at hall
    obtain ⟨n, hread, rfl⟩ := map_eq_ok_iff.mp h
    unfold readInt at hread
    split at hread
    next => cases hread
    next =>
      cases hread
      exact .whole (Value.number?_text
        (read?_of_digits rfl (List.isEmpty_eq_false_iff.mp hall.1) hall.2))
  next =>
    split at h
    next x hx =>
      cases h
      exact .double (Double.readUnsigned?_ne_nan hx)
        (Value.number?_text (Double.read?_of_readUnsigned? hx))
    next =>
      cases h
      rw [String.ofList_toList]
      exact .text

/-- Whether a cell with one text is found by the literal of another. -/
def cellFound (stored sought : String) : Except Fault Bool := do
  let value ← readAssigned (quoted sought)
  (Value.text stored).looseEquals value

theorem cellFound_eq (stored sought : String) :
    cellFound stored sought =
      (coerceNumber sought.toList).bind (Value.text stored).looseEquals := by
  have hread := readAssigned_quoted [] (by simp) sought
  rw [List.nil_append] at hread
  rw [cellFound, hread]
  rfl

theorem looseEquals_text_number {s : String} {p q : Number} {value : Value}
    (hcell : (Value.text s).number? = some p) (hvalue : value.number? = some q) :
    (Value.text s).looseEquals value = .ok (p.equals q) := by
  cases value with
  | null => cases hvalue
  | bool | int | double | text => simp only [Value.looseEquals, hcell, hvalue]

/-- A text equals itself unless it is read as NaN. -/
theorem looseEquals_text_self (s : String) :
    (Value.text s).looseEquals (.text s) = .ok true ↔
      (Value.text s).number? ≠ some (.double .nan) := by
  cases hread : (Value.text s).number? with
  | none => simp [Value.looseEquals, hread, Value.toText, bind_ok]
  | some n =>
      rw [looseEquals_text_number hread hread, Except.ok.injEq, equals_iff, Ne, value?_eq_none_iff]
      simp

/-- A text is found by the literal that it is read as if reading it as a double keeps its value. -/
theorem ReadsAs.looseEquals_iff {s : String} {value : Value} (reads : ReadsAs s value) :
    (Value.text s).looseEquals value = .ok true ↔
      (∀ n : Int, value = .int n → Double.IsValue n) ∧
        (Value.text s).number? ≠ some (.double .nan) := by
  cases reads with
  | @whole negative n cell =>
      have hnan := Double.ofDecimal_ne_nan negative n 0
      rw [looseEquals_text_number cell rfl, cell, Except.ok.injEq, Double.ofDecimal_equals_iff,
        Double.value?_ofDecimal_iff]
      simp [hnan]
  | @double x isNumber cell =>
      have hvalue : (Number.double x).value? ≠ none := by
        simpa [value?_eq_none_iff] using isNumber
      rw [looseEquals_text_number cell rfl, cell, Except.ok.injEq, equals_iff]
      simp [hvalue, isNumber]
  | text => simp [looseEquals_text_self]

/-- A text of decimal digits, few enough to be read as a literal. -/
structure IsNumeral (s : String) : Prop where
  nonempty : s.toList ≠ []
  digits : ∀ c ∈ s.toList, isDigit c = true
  short : s.toList.length ≤ digitLimit

namespace IsNumeral

variable {s u : String}

theorem takeSign_eq (isNumeral : IsNumeral s) :
    takeSign (dropFinalBreak s.toList) = (false, s.toList) := by
  have hmarks : ∀ mark ∈ "+-\n".toList, isDigit mark = false := forall_mem_of_all (by decide +kernel)
  have hne {c mark : Char} (hc : c ∈ s.toList) (hmark : mark ∈ "+-\n".toList) : c ≠ mark := by
    rintro rfl
    cases (hmarks c hmark).symm.trans (isNumeral.digits c hc)
  have hbreak : (s.toList.getLast? == some '\n') = false :=
    beq_eq_false_iff_ne.mpr fun hlast => hne (List.mem_of_getLast? hlast) (by decide) rfl
  rw [dropFinalBreak, hbreak]
  obtain ⟨c, rest, hs⟩ := List.exists_cons_of_ne_nil isNumeral.nonempty
  have hc : c ∈ s.toList := hs ▸ List.mem_cons_self
  have hminus : c ≠ '-' := hne hc (by decide)
  have hplus : c ≠ '+' := hne hc (by decide)
  simp [hs, takeSign, hminus, hplus]

/-- The literal of a numeral is read as its number. -/
theorem coerceNumber_eq (isNumeral : IsNumeral s) :
    coerceNumber s.toList = .ok (.int (ofDigits s.toList)) := by
  have hall : s.toList.all isDigit = true := List.all_eq_true.mpr isNumeral.digits
  have hnonempty : s.toList.isEmpty = false := List.isEmpty_eq_false_iff.mpr isNumeral.nonempty
  simp only [coerceNumber, isNumeral.takeSign_eq, hnonempty, hall, readInt,
    if_neg (Nat.not_lt.mpr isNumeral.short), Bool.not_false, Bool.and_self, if_true]
  rfl

/-- A numeral in a cell is compared with that of a literal after it is rounded to a double. -/
theorem cellFound_eq (isStored : IsNumeral s) (isSought : IsNumeral u) :
    cellFound s u = .ok ((Number.double (.ofDecimal false (ofDigits s.toList) 0)).equals
      (.int (ofDigits u.toList))) := by
  have hcell := Value.number?_text
    (read?_of_digits isStored.takeSign_eq isStored.nonempty isStored.digits)
  have hsought : (Value.int (ofDigits u.toList)).number? = some (.int (ofDigits u.toList)) := rfl
  rw [MockSql.cellFound_eq, isSought.coerceNumber_eq]
  exact looseEquals_text_number hcell hsought

theorem cellFound_iff (isStored : IsNumeral s) (isSought : IsNumeral u) :
    cellFound s u = .ok true ↔
      (Number.double (.ofDecimal false (ofDigits s.toList) 0)).value? =
        some (.ofRat (ofDigits u.toList : Int)) := by
  rw [isStored.cellFound_eq isSought, Except.ok.injEq, Double.ofDecimal_equals_iff]

end IsNumeral

/-- A text is found by its own literal exactly if the literal can be read, is not read as a whole
number that no double is equal to, and the cell is not read as NaN. A numeral is found by the
numerals that denote the number it is rounded to; so by those that denote the same number if a
double is equal to it, and by none of these otherwise. -/
theorem own_literal_finds_iff (s u : String) :
    (cellFound s s = .ok true ↔
      (∃ value, readAssigned (quoted s) = .ok value ∧
        ∀ n : Int, value = .int n → Double.IsValue n) ∧
      (Value.text s).number? ≠ some (.double .nan)) ∧
    (IsNumeral s → IsNumeral u →
      (cellFound s u = .ok true ↔
        (Number.double (.ofDecimal false (ofDigits s.toList) 0)).value? =
          some (.ofRat (ofDigits u.toList : Int))) ∧
      (Double.IsValue (ofDigits s.toList : Int) →
        (cellFound s u = .ok true ↔ ofDigits s.toList = ofDigits u.toList)) ∧
      (¬Double.IsValue (ofDigits s.toList : Int) → ofDigits s.toList = ofDigits u.toList →
        cellFound s u = .ok false)) := by
  constructor
  · have hread := readAssigned_quoted [] (by simp) s
    rw [List.nil_append] at hread
    rw [cellFound_eq, hread]
    cases hvalue : coerceNumber s.toList with
    | error fault => simp [Except.bind]
    | ok value => simpa [Except.bind] using (readsAs_of_coerceNumber hvalue).looseEquals_iff
  · intro isStored isSought
    have hrounded := @Double.value?_ofDecimal_iff false (ofDigits s.toList)
    refine ⟨isStored.cellFound_iff isSought, ?_, ?_⟩
    · intro isValue
      rw [isStored.cellFound_iff isSought, hrounded.mpr isValue, Option.some_inj,
        ExtendedRat.ofRat_inj]
      simp [signed]
    · intro notValue hsame
      rw [isStored.cellFound_eq isSought, ← hsame, Except.ok.injEq, ← Bool.not_eq_true,
        Double.ofDecimal_equals_iff]
      exact mt hrounded.mp notValue

/-- A numeral of another script with a leading zero and one of the same number, a text with a quote
and one with white space, and the least whole number that no double is equal to. -/
theorem own_literal_finds_iff_of_numerals :
    IsNumeral "٠٤٢" ∧ IsNumeral "42" ∧ IsNumeral "9007199254740993" ∧
      Double.IsValue (42 : Int) ∧ ¬Double.IsValue (9007199254740993 : Int) ∧
      cellFound "٠٤٢" "42" = .ok true ∧
      cellFound "9007199254740993" "9007199254740993" = .ok false ∧
      cellFound "it's" "it's" = .ok true ∧ cellFound " 1_0e2\n" " 1_0e2\n" = .ok true := by
  have isArabic : IsNumeral "٠٤٢" := ⟨by decide, forall_mem_of_all (by decide +kernel), by decide⟩
  have isPlain : IsNumeral "42" := ⟨by decide, forall_mem_of_all (by decide +kernel), by decide⟩
  have isLarge : IsNumeral "9007199254740993" :=
    ⟨by decide, forall_mem_of_all (by decide +kernel), by decide⟩
  have isValue : Double.IsValue (42 : Int) := by decide +kernel
  have notValue : ¬Double.IsValue (9007199254740993 : Int) := by decide +kernel
  have harabic : ofDigits "٠٤٢".toList = 42 := by decide +kernel
  have hplain : ofDigits "42".toList = 42 := by decide +kernel
  have hlarge : ofDigits "9007199254740993".toList = 9007199254740993 := by decide +kernel
  have hsame := ((own_literal_finds_iff _ _).2 isArabic isPlain).2.1
  have hmissed := ((own_literal_finds_iff _ _).2 isLarge isLarge).2.2
  rw [harabic, hplain] at hsame
  rw [hlarge] at hmissed
  have hfound {s : String} (hread : readAssigned (quoted s) = .ok (.text s))
      (hnan : (Value.text s).number? ≠ some (.double .nan)) : cellFound s s = .ok true :=
    (own_literal_finds_iff s s).1.mpr ⟨⟨.text s, hread, fun n heq => nomatch heq⟩, hnan⟩
  exact ⟨isArabic, isPlain, isLarge, isValue, notValue, (hsame isValue).mpr rfl,
    hmissed notValue rfl, hfound (by decide +kernel) (by decide +kernel),
    hfound (by decide +kernel) (by decide +kernel)⟩

/-- The literal of a whole number misses the cell with its own text and finds it under the text of
the number before. The literal of NaN misses its own text too. -/
theorem own_literal_misses :
    cellFound "9007199254740993" "9007199254740993" = .ok false ∧
      cellFound "9007199254740993" "9007199254740992" = .ok true ∧
      cellFound "nan" "nan" = .ok false :=
  ⟨by decide +kernel, by decide +kernel, by decide +kernel⟩

end MockSql
