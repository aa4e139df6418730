/-
# The exact value of a number

An integer is worth itself. A finite double is its significand times a power of two, and an
infinity stands below or above all that is finite; only NaN has no value. Numbers are compared by
these values: the one is less than the other, or equal to it, exactly when its value is, whether
they are integers or doubles.
-/

import Mathlib.Algebra.Order.Field.Power
import Mathlib.Data.Rat.Cast.Order
import Mathlib.Order.WithBot
import Mathlib.Tactic.FieldSimp
import Mathlib.Tactic.Positivity
import MockSql.Number

namespace MockSql

/-- A fraction or an infinity. -/
abbrev ExtendedRat : Type :=
  WithBot (WithTop ℚ)

/-- A fraction among the values of numbers. -/
def ExtendedRat.ofRat (value : ℚ) : ExtendedRat :=
  ((value : WithTop ℚ) : WithBot (WithTop ℚ))

namespace ExtendedRat

theorem ofRat_lt_ofRat {p q : ℚ} : ofRat p < ofRat q ↔ p < q := by
  simp [ofRat]

theorem ofRat_inj {p q : ℚ} : ofRat p = ofRat q ↔ p = q := by
  simp [ofRat]

theorem bot_lt_ofRat (p : ℚ) : ⊥ < ofRat p :=
  WithBot.bot_lt_coe _

theorem ofRat_lt_top (p : ℚ) : ofRat p < ⊤ :=
  WithBot.coe_lt_coe.mpr (WithTop.coe_lt_top p)

theorem ofRat_ne_bot (p : ℚ) : ofRat p ≠ ⊥ :=
  WithBot.coe_ne_bot

theorem ofRat_ne_top (p : ℚ) : ofRat p ≠ ⊤ :=
  (ofRat_lt_top p).ne

end ExtendedRat

namespace Double

/-- The significand of a finite double as a whole number. Only exponent field zero lacks the leading
bit. -/
def significand (exponent : Fin 2047) (fraction : Fin fractionCount) : Nat :=
  if exponent.val = 0 then fraction.val else 2 ^ 52 + fraction.val

/-- The value of a finite double. The exponent fields zero and one stand for the same power of
two. -/
def finiteValue (negative : Bool) (exponent : Fin 2047) (fraction : Fin fractionCount) : ℚ :=
  let size := significand exponent fraction * (2 : ℚ) ^ ((max exponent.val 1 : ℤ) - 1075)
  if negative then -size else size

end Double

/-- The value of a number, unless it is NaN. -/
def Number.value? : Number → Option ExtendedRat
  | .int n => some (.ofRat n)
  | .double .nan => none
  | .double (.infinite negative) => some (if negative then ⊥ else ⊤)
  | .double (.finite negative exponent fraction) =>
    some (.ofRat (Double.finiteValue negative exponent fraction))

namespace Double

/-- The units of one are a power of two. Its exponent stands apart, so that the power is not
computed. -/
theorem unitsPerOne_eq_pow : ∃ bits : ℕ, bits + 1 = 1075 ∧ (unitsPerOne : ℚ) = 2 ^ bits := by
  unfold unitsPerOne
  generalize hbits : 1074 = bits
  refine ⟨bits, by omega, ?_⟩
  rw [Nat.pow_eq, Nat.cast_pow, Nat.cast_ofNat]

theorem unitsPerOne_pos : (0 : ℚ) < unitsPerOne := by
  obtain ⟨bits, -, hunit⟩ := unitsPerOne_eq_pow
  rw [hunit]
  positivity

theorem magnitude_eq (exponent : Fin 2047) (fraction : Fin fractionCount) :
    magnitude exponent fraction =
      significand exponent fraction * 2 ^ (max exponent.val 1 - 1) := by
  unfold magnitude significand
  split
  next hzero => simp [hzero]
  next hpos => rw [max_eq_left (Nat.one_le_iff_ne_zero.mpr hpos)]; rfl

/-- The value of a finite double is its number of units over the units of one. -/
theorem finiteValue_eq (negative : Bool) (exponent : Fin 2047) (fraction : Fin fractionCount) :
    ∃ units : Int, (Double.finite negative exponent fraction).units? = some units ∧
      finiteValue negative exponent fraction = units / unitsPerOne := by
  have hsize : (magnitude exponent fraction : ℚ) / unitsPerOne =
      significand exponent fraction * (2 : ℚ) ^ ((max exponent.val 1 : ℤ) - 1075) := by
    obtain ⟨bits, hbits, hunit⟩ := unitsPerOne_eq_pow
    have hpower : (max exponent.val 1 : ℤ) - 1075 =
        ((max exponent.val 1 - 1 : ℕ) : ℤ) - (bits : ℤ) := by omega
    rw [magnitude_eq, hunit, hpower, zpow_sub₀ two_ne_zero, zpow_natCast, zpow_natCast]
    push_cast
    rw [mul_div_assoc]
  refine ⟨_, rfl, ?_⟩
  rw [finiteValue, ← hsize]
  generalize (unitsPerOne : ℚ) = unit
  cases negative with
  | false => rfl
  | true => simp [neg_div]

end Double

namespace Number

variable {a b : Number}

/-- How the rank of a number and its value correspond. The units of one are a parameter, so that
they are not computed where ranks are compared. -/
inductive RankValue (unitsOfOne : ℚ) : Option (Int × Int) → Option ExtendedRat → Prop
  | none : RankValue unitsOfOne none none
  | below : RankValue unitsOfOne (some (-1, 0)) (some ⊥)
  | above : RankValue unitsOfOne (some (1, 0)) (some ⊤)
  | finite (units : Int) :
      RankValue unitsOfOne (some (0, units)) (some (.ofRat (units / unitsOfOne)))

theorem rankValue (a : Number) : RankValue Double.unitsPerOne a.rank? a.value? := by
  have hunit := Double.unitsPerOne_pos.ne'
  cases a with
  | int n =>
      have hvalue : (n : ℚ) = (n * Double.unitsPerOne : Int) / Double.unitsPerOne := by
        push_cast
        rw [mul_div_cancel_right₀ _ hunit]
      rw [value?, hvalue]
      exact .finite _
  | double x =>
      cases x with
      | nan => exact .none
      | infinite negative =>
          cases negative
          · exact .above
          · exact .below
      | finite negative exponent fraction =>
          obtain ⟨units, hunits, hvalue⟩ := Double.finiteValue_eq negative exponent fraction
          rw [value?, hvalue, rank?, hunits]
          exact .finite units
          all_goals simp

/-- Only NaN has no value. -/
theorem value?_eq_none_iff : a.value? = none ↔ a = .double .nan := by
  cases a with
  | int n => simp [value?]
  | double x => cases x <;> simp [value?]

/-- A number is less than another when its value is. -/
theorem less_iff : a.less b = true ↔ ∃ p q, a.value? = some p ∧ b.value? = some q ∧ p < q := by
  have hunit := Double.unitsPerOne_pos
  have ha := rankValue a
  have hb := rankValue b
  unfold less
  generalize (Double.unitsPerOne : ℚ) = unitsOfOne at hunit ha hb
  generalize a.rank? = rankA at *
  generalize a.value? = valueA at *
  generalize b.rank? = rankB at *
  generalize b.value? = valueB at *
  cases ha <;> cases hb <;>
    simp [ExtendedRat.ofRat_lt_ofRat, ExtendedRat.bot_lt_ofRat, ExtendedRat.ofRat_lt_top,
      div_lt_div_iff_of_pos_right hunit]

/-- Two numbers are equal when they have the same value. -/
theorem equals_iff : a.equals b = true ↔ a.value? = b.value? ∧ a.value? ≠ none := by
  have hunit := Double.unitsPerOne_pos.ne'
  have ha := rankValue a
  have hb := rankValue b
  unfold equals
  generalize (Double.unitsPerOne : ℚ) = unitsOfOne at hunit ha hb
  generalize a.rank? = rankA at *
  generalize a.value? = valueA at *
  generalize b.rank? = rankB at *
  generalize b.value? = valueB at *
  cases ha <;> cases hb <;>
    simp [ExtendedRat.ofRat_inj, ExtendedRat.ofRat_ne_bot, ExtendedRat.ofRat_ne_top,
      (ExtendedRat.ofRat_ne_bot _).symm, (ExtendedRat.ofRat_ne_top _).symm, div_left_inj' hunit]

end Number

end MockSql
