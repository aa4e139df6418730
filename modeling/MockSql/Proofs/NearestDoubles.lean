/-
# Values that rounding keeps

The double nearest to the value of a double is that double, so nothing is lost in rounding it. A whole
number in decimal digits therefore keeps its value as a double if any double has that value, and only
then.
-/

import MockSql.Proofs.ExactNumbers
import MockSql.Proofs.Numbering
import MockSql.Proofs.Numerals

namespace MockSql

open MockSql.Number

/-- A fraction is the value of a double. -/
def Double.IsValue (value : ℚ) : Prop :=
  ∃ x : Double, (Number.double x).value? = some (.ofRat value)

namespace Double

theorem roundQuotient_mul (quotient : Nat) {denominator : Nat} (hpos : 0 < denominator) :
    roundQuotient (quotient * denominator) denominator = quotient := by
  have htwice : 2 * (quotient * denominator % denominator) < denominator := by
    rw [Nat.mul_mod_left]
    exact hpos
  rw [roundQuotient, if_pos (.inl htwice), Nat.mul_div_cancel _ hpos]

/-- A normal significand in steps of a power of two needs that many bits more. -/
theorem log2_significand {fraction : Nat} (hfraction : fraction < fractionCount) (shift : Nat) :
    Nat.log2 ((fractionCount + fraction) * 2 ^ shift) = 52 + shift := by
  have hpower : 0 < 2 ^ shift := Nat.two_pow_pos shift
  have hcount : fractionCount = 2 ^ 52 := rfl
  have hne : (fractionCount + fraction) * 2 ^ shift ≠ 0 := by positivity
  rw [Nat.log2_eq_iff hne, show 52 + shift + 1 = 53 + shift by omega, Nat.pow_add, Nat.pow_add]
  constructor
  · exact Nat.mul_le_mul_right _ (by omega)
  · exact Nat.mul_lt_mul_of_pos_right (by omega) hpower

/-- A significand of at most 53 bits is not rounded. -/
theorem ofUnitQuotient_mul (negative : Bool) {significand shift : Nat}
    (hsmall : significand < 2 * fractionCount)
    (hshift : Nat.log2 (significand * 2 ^ shift) - 52 = shift) :
    ofUnitQuotient negative (significand * 2 ^ shift) 1 =
      ofSignificand negative significand shift := by
  have hrounded := roundQuotient_mul significand (Nat.two_pow_pos shift)
  simp only [ofUnitQuotient, Nat.div_one, hshift, Nat.pow_eq, Nat.one_mul, hrounded,
    if_neg hsmall.ne]

/-- The double that is nearest to the size of a finite one is that double. -/
theorem ofUnitQuotient_magnitude (negative : Bool) (exponent : Fin 2047)
    (fraction : Fin fractionCount) :
    ofUnitQuotient negative (magnitude exponent fraction) 1 =
      .finite negative exponent fraction := by
  have hfraction := fraction.isLt
  unfold magnitude
  split
  next hzero =>
    have hlog : Nat.log2 (fraction.val * 2 ^ 0) - 52 = 0 := by
      rw [Nat.pow_zero, Nat.mul_one]
      by_cases hnone : fraction.val = 0
      · rw [hnone]
        rfl
      · have hlt : Nat.log2 fraction.val < 52 := (Nat.log2_lt hnone).mpr hfraction
        omega
    have hexact := @ofUnitQuotient_mul negative fraction.val 0 (by omega) hlog
    rw [Nat.pow_zero, Nat.mul_one] at hexact
    have hexponent : exponent = 0 := Fin.ext hzero
    rw [hexact, ofSignificand, if_pos hfraction, hexponent, Fin.ofNat_eq_cast, Fin.cast_val_eq_self]
  next hpos =>
    have hlog : Nat.log2 ((fractionCount + fraction.val) * 2 ^ (exponent.val - 1)) - 52 =
        exponent.val - 1 := by
      rw [log2_significand hfraction]
      omega
    have hexponent : exponent.val - 1 + 1 = exponent.val :=
      Nat.sub_add_cancel (Nat.one_le_iff_ne_zero.mpr hpos)
    have hlarge : ¬fractionCount + fraction.val < fractionCount := by omega
    rw [Nat.pow_eq, ofUnitQuotient_mul negative (by omega) hlog, ofSignificand, if_neg hlarge]
    simp [hexponent]

variable {negative : Bool} {n : Nat}

theorem value?_finite (negative : Bool) (exponent : Fin 2047) (fraction : Fin fractionCount) :
    (Number.double (.finite negative exponent fraction)).value? =
      some (.ofRat (signed negative (magnitude exponent fraction) / unitsPerOne)) := by
  obtain ⟨units, hunits, hvalue⟩ := finiteValue_eq negative exponent fraction
  cases hunits
  rw [Number.value?, hvalue]
  rfl

/-- A finite double that has the size of a whole number has its value. -/
theorem value?_of_magnitude {exponent : Fin 2047} {fraction : Fin fractionCount}
    (hsize : magnitude exponent fraction = n * unitsPerOne) :
    (Number.double (.finite negative exponent fraction)).value? =
      some (.ofRat (signed negative n : Int)) := by
  have hunits : ((signed negative (n * unitsPerOne) : Int) : ℚ) =
      (signed negative n : Int) * unitsPerOne := by
    generalize unitsPerOne = units
    cases negative <;> simp [signed]
  rw [value?_finite, hsize, hunits, mul_div_cancel_right₀ _ unitsPerOne_pos.ne']

/-- A whole number is the value of a double if a finite one has its size. -/
theorem isValue_iff : IsValue (signed negative n : Int) ↔
    ∃ exponent fraction, magnitude exponent fraction = n * unitsPerOne := by
  constructor
  · rintro ⟨x, hx⟩
    cases x with
    | nan => cases hx
    | infinite negative =>
        cases negative with
        | false => exact absurd (Option.some.inj hx).symm (ExtendedRat.ofRat_ne_top _)
        | true => exact absurd (Option.some.inj hx).symm (ExtendedRat.ofRat_ne_bot _)
    | finite negative' exponent fraction =>
        refine ⟨exponent, fraction, ?_⟩
        rw [value?_finite, Option.some_inj, ExtendedRat.ofRat_inj,
          div_eq_iff unitsPerOne_pos.ne'] at hx
        have hunits : signed negative' (magnitude exponent fraction) =
            signed negative n * unitsPerOne := by exact_mod_cast hx
        rw [← natAbs_signed negative' (magnitude exponent fraction), hunits, Int.natAbs_mul,
          natAbs_signed, Int.natAbs_natCast]
  · rintro ⟨exponent, fraction, hsize⟩
    exact ⟨_, value?_of_magnitude hsize⟩

/-- The value of a double has few decimal digits. -/
theorem IsValue.length_toDigits_le (h : IsValue (signed negative n : Int)) :
    (Nat.toDigits 10 n).length ≤ 330 := by
  obtain ⟨exponent, fraction, hsize⟩ := isValue_iff.mp h
  have hlt := magnitude_lt exponent fraction
  rw [hsize] at hlt
  obtain ⟨digits, hdigits, hlimit⟩ : ∃ digits, digits = 330 ∧ wholeLimit ≤ Nat.pow 10 digits :=
    ⟨330, rfl, by decide +kernel⟩
  rw [← hdigits, Nat.length_toDigits_le_iff (by decide) (by omega)]
  exact (Nat.lt_of_mul_lt_mul_right hlt).trans_le hlimit

/-- The value of a double is read as that double. -/
theorem IsValue.exists_ofDecimal (h : IsValue (signed negative n : Int)) :
    ∃ exponent fraction, ofDecimal negative n 0 = .finite negative exponent fraction ∧
      magnitude exponent fraction = n * unitsPerOne := by
  by_cases hzero : n = 0
  · subst hzero
    exact ⟨0, 0, rfl, (Nat.zero_mul _).symm⟩
  obtain ⟨exponent, fraction, hsize⟩ := isValue_iff.mp h
  have hlength := h.length_toDigits_le
  have hsmall : ¬(n = 0 ∨ ((Nat.toDigits 10 n).length : Int) + 0 < -330) := by omega
  have hlarge : ¬330 < ((Nat.toDigits 10 n).length : Int) + 0 := by omega
  refine ⟨exponent, fraction, ?_, hsize⟩
  simp only [ofDecimal, if_neg hsmall, if_neg hlarge, le_refl, if_true, ofQuotient, Int.toNat_zero,
    Nat.pow_eq, Nat.pow_zero, Nat.mul_one]
  rw [← hsize, ofUnitQuotient_magnitude]

/-- A whole number in decimal digits keeps its value as a double if any double has that value. -/
theorem value?_ofDecimal_iff : (Number.double (ofDecimal negative n 0)).value? =
    some (.ofRat (signed negative n : Int)) ↔ IsValue (signed negative n : Int) := by
  constructor
  · exact fun h => ⟨_, h⟩
  · intro h
    obtain ⟨exponent, fraction, hfinite, hsize⟩ := h.exists_ofDecimal
    rw [hfinite, value?_of_magnitude hsize]

/-- The double nearest to a whole number equals an integer if it has the value of that integer. -/
theorem ofDecimal_equals_iff {m : Int} :
    (Number.double (ofDecimal negative n 0)).equals (.int m) = true ↔
      (Number.double (ofDecimal negative n 0)).value? = some (.ofRat m) := by
  have hint : (Number.int m).value? = some (.ofRat m) := rfl
  rw [Number.equals_iff, hint]
  exact and_iff_left_of_imp fun h => by rw [h]; exact nofun

instance (m : Int) : Decidable (IsValue m) :=
  decidable_of_iff ((Number.double (ofDecimal (decide (m < 0)) m.natAbs 0)).equals (.int m) = true)
    (by
      have hrounded := @value?_ofDecimal_iff (decide (m < 0)) m.natAbs
      rw [Literal.signed_natAbs] at hrounded
      rw [ofDecimal_equals_iff, hrounded])

theorem ofSignificand_ne_nan (negative : Bool) (significand shift : Nat) :
    ofSignificand negative significand shift ≠ .nan := by
  unfold ofSignificand
  split
  next => exact nofun
  next => split <;> exact nofun

theorem ofUnitQuotient_ne_nan (negative : Bool) (numerator denominator : Nat) :
    ofUnitQuotient negative numerator denominator ≠ .nan := by
  unfold ofUnitQuotient
  dsimp only
  split <;> exact ofSignificand_ne_nan _ _ _

/-- A numeral does not stand for NaN. -/
theorem ofDecimal_ne_nan (negative : Bool) (digits : Nat) (exponent : Int) :
    ofDecimal negative digits exponent ≠ .nan := by
  unfold ofDecimal
  dsimp only
  split
  next => exact nofun
  next =>
    split
    next => exact nofun
    next => split <;> exact ofUnitQuotient_ne_nan _ _ _

end Double

end MockSql
