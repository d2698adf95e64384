import Mathlib
import RecordMapper.Proofs.Decimal.Interval
/-! # Equality of doubles

The sign, the mantissa and the exponent tell a double (`eq_of_magnitude`).  Two doubles that are equal as
numbers are the same, but for the two zeros (`beq_and_sign_iff`). -/
set_option autoImplicit false
namespace RecordMapper.Decimal

open Float.Model (Format UnpackedFloat)
open Float.Model.UnpackedFloat (unpackExponent unpackMantissa)

def biased (x : Float) : Nat := ((x.toBits >>> 52) &&& 0x7FF).toNat

def fraction (x : Float) : Nat := (x.toBits &&& 0xFFFFFFFFFFFFF).toNat

theorem biased_lt (x : Float) : biased x < 2 ^ 11 := by
  rw [biased, toNat_biased]
  exact (unpackExponent (packed x)).isLt

theorem fraction_lt (x : Float) : fraction x < 2 ^ 52 := by
  rw [fraction, toNat_fraction]
  exact (unpackMantissa (packed x)).isLt

theorem ofFloat_eq (x : Float) : Binary.ofFloat x =
    if biased x = 0 then ⟨fraction x, -1074, false⟩
    else ⟨2 ^ 52 + fraction x, biased x - 1075, fraction x == 0 && biased x > 1⟩ := rfl

theorem canonical_ofFloat (x : Float) : (Binary.ofFloat x).Canonical := by
  have few := biased_lt x
  have short := fraction_lt x
  rw [ofFloat_eq]
  split
  · next none =>
      constructor <;> dsimp only
      · omega
      · omega
      · omega
      · simp
  · next some =>
      constructor <;> dsimp only
      · omega
      · omega
      · omega
      · simp only [Bool.and_eq_true, beq_iff_eq, decide_eq_true_eq]
        omega

theorem toNat_top (x : Float) : (x.toBits >>> 63).toNat = x.toBits.toNat / 2 ^ 63 := by
  rw [UInt64.toNat_shiftRight, Nat.shiftRight_eq_div_pow]
  rfl

theorem toNat_top_isNegative (x : Float) :
    (x.toBits >>> 63).toNat = if isNegative x then 1 else 0 := by
  have bound := x.toBits.toNat_lt
  have top := toNat_top x
  split
  · next negative =>
      rw [isNegative, beq_iff_eq] at negative
      rw [negative]
      rfl
  · next positive =>
      rw [isNegative, beq_iff_eq, ← UInt64.toNat_inj] at positive
      have one : (1 : UInt64).toNat = 1 := rfl
      omega

theorem toNat_toBits (x : Float) : x.toBits.toNat =
    2 ^ 63 * (if isNegative x then 1 else 0) + 2 ^ 52 * biased x + fraction x := by
  have high : biased x = x.toBits.toNat / 2 ^ 52 % 2 ^ 11 := by
    have shifted : (x.toBits >>> 52).toNat = x.toBits.toNat / 2 ^ 52 := by
      rw [UInt64.toNat_shiftRight, Nat.shiftRight_eq_div_pow]
      rfl
    rw [biased, UInt64.toNat_and, shifted]
    exact Nat.and_two_pow_sub_one_eq_mod _ 11
  have low : fraction x = x.toBits.toNat % 2 ^ 52 := by
    rw [fraction, UInt64.toNat_and]
    exact Nat.and_two_pow_sub_one_eq_mod _ 52
  have top := toNat_top x
  rw [← toNat_top_isNegative]
  omega

theorem stored_of_magnitude {x y : Float}
    (mantissas : (Binary.ofFloat x).mantissa = (Binary.ofFloat y).mantissa)
    (exponents : (Binary.ofFloat x).exponent = (Binary.ofFloat y).exponent) :
    biased x = biased y ∧ fraction x = fraction y := by
  have short := fraction_lt x
  have short' := fraction_lt y
  rw [ofFloat_eq, ofFloat_eq] at mantissas exponents
  by_cases none : biased x = 0
  · by_cases none' : biased y = 0
    · rw [if_pos none, if_pos none'] at mantissas
      exact ⟨none.trans none'.symm, mantissas⟩
    · rw [if_pos none, if_neg none'] at mantissas
      dsimp only at mantissas
      omega
  · by_cases none' : biased y = 0
    · rw [if_neg none, if_pos none'] at mantissas
      dsimp only at mantissas
      omega
    · rw [if_neg none, if_neg none'] at mantissas exponents
      dsimp only at mantissas exponents
      omega

/-- The sign, the mantissa and the exponent are all that there is of a double. -/
theorem eq_of_magnitude {x y : Float} (signs : isNegative x = isNegative y)
    (mantissas : (Binary.ofFloat x).mantissa = (Binary.ofFloat y).mantissa)
    (exponents : (Binary.ofFloat x).exponent = (Binary.ofFloat y).exponent) : x = y := by
  obtain ⟨high, low⟩ := stored_of_magnitude mantissas exponents
  apply Float.toBits_inj.mp
  apply UInt64.toNat_inj.mp
  rw [toNat_toBits, toNat_toBits y, signs, high, low]

/-! ## Infinities and zeros -/

theorem isFinite_iff {x : Float} : x.isFinite = true ↔ x.isNaN = false ∧ x.isInf = false := by
  show x.toModel.unpack.isFinite = true ↔ x.toModel.unpack.isNaN = false ∧ x.toModel.unpack.isInf = false
  cases x.toModel.unpack with
  | finite | zero => exact ⟨fun _ => ⟨rfl, rfl⟩, fun _ => rfl⟩
  | infinity => exact ⟨fun impossible => (by cases impossible), fun told => (by cases told.2)⟩
  | notANumber => exact ⟨fun impossible => (by cases impossible), fun told => (by cases told.1)⟩

/-- Infinity has the mantissa and the exponent that come behind those of the finite doubles. -/
theorem magnitude_of_isInf {x : Float} (infinite : x.isInf = true) :
    (Binary.ofFloat x).mantissa = 2 ^ 52 ∧ (Binary.ofFloat x).exponent = 972 := by
  have unpacked : (UnpackedFloat.unpack Format.binary64 (packed x)).isInf = true := infinite
  unfold UnpackedFloat.unpack at unpacked
  dsimp only at unpacked
  by_cases full : unpackExponent (packed x) = -1#_
  · by_cases none : unpackMantissa (packed x) = 0#_
    · have high : biased x = 2047 := by
        rw [biased, toNat_biased, full]
        rfl
      have low : fraction x = 0 := by
        rw [fraction, toNat_fraction, none]
        rfl
      rw [ofFloat_eq, high, low]
      exact ⟨rfl, rfl⟩
    · rw [if_pos full, if_neg none] at unpacked
      cases unpacked
  · rw [if_neg full] at unpacked
    split at unpacked
    · split at unpacked <;> cases unpacked
    · cases unpacked

/-- Doubles that are equal as numbers and have one sign are the same double. -/
theorem beq_and_sign_iff {x y : Float} (number : x.isNaN = false) :
    ((x == y) = true ∧ isNegative x = isNegative y) ↔ x = y := by
  have present : x ≠ Float.nan := by
    rw [Float.isNaN_eq_decide_eq_nan] at number
    exact of_decide_eq_false number
  have apart : isNegative 0 ≠ isNegative (-0) := by decide
  rw [Float.beq_iff_ne_nan_and_eq]
  constructor
  · rintro ⟨⟨-, -, same | ⟨rfl, rfl⟩ | ⟨rfl, rfl⟩⟩, signs⟩
    · exact same
    · exact absurd signs apart
    · exact absurd signs.symm apart
  · rintro rfl
    exact ⟨⟨present, present, .inl rfl⟩, rfl⟩

end RecordMapper.Decimal
