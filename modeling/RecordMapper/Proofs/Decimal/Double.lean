import Mathlib.Data.Rat.Floor
import Mathlib.Tactic.Linarith
import Mathlib.Tactic.NormNum
import RecordMapper.Decimal.Binary
/-! # The number that a double is

The sign, mantissa and exponent that are read off the bits of a double are those of the logical model of
doubles (`parts`), so that `truncated` is the number of a finite double without its fraction
(`truncated_eq`). -/
set_option autoImplicit false
namespace RecordMapper.Decimal

open Float.Model (Format UnpackedFloat)
open Float.Model.UnpackedFloat (Sign unpackExponent unpackMantissa unpackSign)

def unpackedNumber : UnpackedFloat → ℚ
  | .finite sign mantissa exponent _ => sign.apply mantissa * 2 ^ exponent
  | .zero _ | .infinity _ | .notANumber => 0

def number (x : Float) : ℚ := unpackedNumber x.toModel.unpack

def towardZero (q : ℚ) : ℤ := if 0 ≤ q then ⌊q⌋ else ⌈q⌉

theorem towardZero_of_nonneg {q : ℚ} (nonneg : 0 ≤ q) : towardZero q = ⌊q⌋ := if_pos nonneg

theorem towardZero_neg (q : ℚ) : towardZero (-q) = -towardZero q := by
  rcases lt_trichotomy q 0 with negative | rfl | positive
  · rw [towardZero, towardZero, if_pos (by linarith), if_neg (by linarith), Int.floor_neg]
  · rfl
  · rw [towardZero, towardZero, if_neg (by linarith), if_pos (by linarith), Int.ceil_neg]

/-! ## The parts of a double -/

def packed (x : Float) : BitVec Format.binary64.numBits := x.toBits.toBitVec

def sign (x : Float) : Sign := .ofBitVec (unpackSign (packed x))

theorem toNat_biased (x : Float) :
    ((x.toBits >>> 52) &&& 0x7FF).toNat = (unpackExponent (packed x)).toNat := by
  rw [UInt64.toNat_and, UInt64.toNat_shiftRight]
  exact Nat.and_two_pow_sub_one_eq_mod _ 11

theorem toNat_fraction (x : Float) :
    (x.toBits &&& 0xFFFFFFFFFFFFF).toNat = (unpackMantissa (packed x)).toNat := by
  rw [UInt64.toNat_and]
  exact Nat.and_two_pow_sub_one_eq_mod _ 52

theorem toNat_sign (x : Float) : (x.toBits >>> 63).toNat = (unpackSign (packed x)).toNat := by
  have bound := x.toBits.toNat_lt
  rw [UInt64.toNat_shiftRight]
  show x.toBits.toNat >>> 63 = x.toBits.toNat >>> 63 % 2 ^ 1
  rw [Nat.shiftRight_eq_div_pow]
  omega

theorem isNegative_iff {x : Float} : isNegative x = true ↔ sign x = .negative := by
  rw [isNegative, beq_iff_eq, ← UInt64.toNat_inj, toNat_sign, sign, Sign.ofBitVec]
  generalize unpackSign (packed x) = bit
  show bit.toNat = 1 ↔ _
  rcases BitVec.eq_zero_or_eq_one bit with rfl | rfl <;> simp

theorem toNat_implicit (fraction : BitVec 52) :
    (1#1 ++ fraction).toNat = 0x10000000000000 + fraction.toNat := by
  rw [BitVec.toNat_append, ← Nat.shiftLeft_add_eq_or_of_lt fraction.isLt]
  rfl

theorem ofFloat_subnormal {x : Float} (empty : unpackExponent (packed x) = 0#_) :
    Binary.ofFloat x = ⟨(unpackMantissa (packed x)).toNat, -1074, false⟩ := by
  have biased := toNat_biased x
  rw [empty] at biased
  rw [Binary.ofFloat, ← toNat_fraction]
  exact if_pos biased

theorem ofFloat_normal {x : Float} (some : unpackExponent (packed x) ≠ 0#_) :
    (Binary.ofFloat x).mantissa = 0x10000000000000 + (unpackMantissa (packed x)).toNat ∧
      (Binary.ofFloat x).exponent = (unpackExponent (packed x)).toNat - 1075 := by
  have positive : (unpackExponent (packed x)).toNat ≠ 0 :=
    fun same => some (BitVec.eq_of_toNat_eq same)
  rw [Binary.ofFloat, toNat_biased, toNat_fraction]
  dsimp only
  rw [if_neg positive]
  exact ⟨rfl, rfl⟩

/-- What the bits of a double say of the float that they are unpacked to. -/
inductive Parts (x : Float) : UnpackedFloat → Prop
  | infinity : Parts x (.infinity (sign x))
  | notANumber : Parts x .notANumber
  | zero (binary : Binary.ofFloat x = ⟨0, -1074, false⟩) : Parts x (.zero (sign x))
  | finite (mantissa : Nat) (exponent : Int) (positive : 0 < mantissa)
      (binary : (Binary.ofFloat x).mantissa = mantissa ∧ (Binary.ofFloat x).exponent = exponent)
      (short : mantissa < 2 ^ 53) (most : exponent ≤ 971) :
      Parts x (.finite (sign x) mantissa exponent positive)

theorem parts (x : Float) : Parts x x.toModel.unpack := by
  show Parts x (UnpackedFloat.unpack Format.binary64 (packed x))
  have short := (unpackMantissa (packed x)).isLt
  have few := (unpackExponent (packed x)).isLt
  simp only at short few
  have bias : ((Format.binary64.exponentBias : Int) +
    Format.binary64.mantissaBitsWithoutImplicit) = 1075 := by decide
  unfold UnpackedFloat.unpack
  dsimp only
  by_cases full : unpackExponent (packed x) = -1#_
  · rw [if_pos full]
    by_cases none : unpackMantissa (packed x) = 0#_
    · rw [if_pos none]
      exact .infinity
    · rw [if_neg none]
      exact .notANumber
  rw [if_neg full]
  by_cases empty : unpackExponent (packed x) = 0#_
  · have binary := ofFloat_subnormal empty
    rw [if_pos empty, bias]
    by_cases none : unpackMantissa (packed x) = 0#_
    · rw [dif_pos none]
      rw [none] at binary
      exact .zero binary
    · rw [dif_neg none]
      refine .finite _ _ _ ⟨by rw [binary], ?_⟩ (by omega) ?_
      · rw [binary, empty]
        rfl
      · rw [empty]
        decide
  · rw [if_neg empty, bias]
    obtain ⟨mantissa, exponent⟩ := ofFloat_normal empty
    have high : (unpackExponent (packed x)).toNat ≠ 2047 :=
      fun same => full (BitVec.eq_of_toNat_eq same)
    refine .finite _ _ _ ⟨?_, exponent⟩ ?_ (by omega)
    · rw [toNat_implicit, mantissa]
    · rw [toNat_implicit]
      omega

/-! ## Without the fraction -/

theorem whole_eq_floor (b : Binary) : (b.whole : ℤ) = ⌊(b.mantissa : ℚ) * 2 ^ b.exponent⌋ := by
  obtain ⟨mantissa, exponent, narrow⟩ := b
  rw [Binary.whole]
  dsimp only
  rcases Int.eq_nat_or_neg exponent with ⟨shift, rfl | rfl⟩
  · have none : (-(shift : ℤ)).toNat = 0 := by omega
    rw [none, Int.toNat_natCast, Nat.shiftRight_zero, Nat.shiftLeft_eq, zpow_natCast]
    exact_mod_cast (Int.floor_natCast (R := ℚ) (mantissa * 2 ^ shift)).symm
  · have none : (-(shift : ℤ)).toNat = 0 := by omega
    rw [none, neg_neg, Int.toNat_natCast, Nat.shiftLeft_zero, Nat.shiftRight_eq_div_pow, zpow_neg,
      zpow_natCast, ← div_eq_mul_inv]
    exact_mod_cast (Rat.floor_natCast_div_natCast mantissa (2 ^ shift)).symm

theorem truncated_eq {x : Float} (finite : x.isFinite = true) : truncated x = towardZero (number x) := by
  have shape := parts x
  rw [truncated, number]
  generalize unpacked : x.toModel.unpack = u at shape ⊢
  have known : u.isFinite = true := unpacked ▸ finite
  cases shape with
  | infinity | notANumber => cases known
  | zero binary =>
      rw [binary]
      cases isNegative x <;> rfl
  | finite mantissa exponent positive binary =>
      obtain ⟨rfl, rfl⟩ := binary
      have value : unpackedNumber (.finite (sign x) _ _ positive) =
        (sign x).apply (Binary.ofFloat x).mantissa * 2 ^ (Binary.ofFloat x).exponent := rfl
      rw [whole_eq_floor, value]
      have nonneg : 0 ≤ ((Binary.ofFloat x).mantissa : ℚ) * 2 ^ (Binary.ofFloat x).exponent :=
        mul_nonneg (Nat.cast_nonneg _) (zpow_nonneg (by norm_num) _)
      rw [← towardZero_of_nonneg nonneg]
      cases signed : sign x with
      | negative =>
          rw [if_pos (isNegative_iff.mpr signed), ← towardZero_neg]
          simp [Sign.apply]
      | positive =>
          have not : ¬ isNegative x = true := by
            rw [isNegative_iff, signed]
            intro same
            cases same
          rw [if_neg not]
          simp [Sign.apply]

/-! ## The limit

Large powers of two are written as products, so that no one tries to evaluate them. -/

/-- From here on numbers are rounded to infinity: it is half a unit beyond the greatest double, which is
`2 ^ 1024 - 2 ^ 970`. -/
def overflow : Nat := (2 ^ 54 - 1) * 2 ^ 970

theorem two_pow_lt_overflow : 2 ^ 63 < overflow := by decide +kernel

theorem two_pow_le {power front back : Nat} (few : power ≤ front + back) :
    2 ^ power ≤ 2 ^ front * 2 ^ back := by
  rw [← pow_add]
  exact Nat.pow_le_pow_right (by decide) few

theorem le_two_pow {power front back : Nat} (many : front + back ≤ power) :
    2 ^ front * 2 ^ back ≤ 2 ^ power := by
  rw [← pow_add]
  exact Nat.pow_le_pow_right (by decide) many

theorem whole_lt_overflow {b : Binary} (short : b.mantissa < 2 ^ 53) (most : b.exponent ≤ 971) :
    b.whole < overflow := by
  obtain ⟨unit, is, positive⟩ : ∃ unit, 2 ^ 970 = unit ∧ 0 < unit := ⟨_, rfl, Nat.two_pow_pos 970⟩
  have scale : 2 ^ b.exponent.toNat ≤ 2 ^ 1 * unit := is ▸ two_pow_le (by omega)
  have bound : b.whole ≤ b.mantissa * 2 ^ b.exponent.toNat := by
    rw [Binary.whole, Nat.shiftRight_eq_div_pow, Nat.shiftLeft_eq]
    exact Nat.div_le_self _ _
  have product : b.mantissa * 2 ^ b.exponent.toNat ≤ (2 ^ 53 - 1) * (2 ^ 1 * unit) :=
    Nat.mul_le_mul (by omega) scale
  rw [overflow, is]
  omega

theorem natAbs_truncated_lt {x : Float} (finite : x.isFinite = true) :
    (truncated x).natAbs < overflow := by
  have magnitude : (truncated x).natAbs = (Binary.ofFloat x).whole := by
    rw [truncated]
    cases isNegative x <;> simp
  have shape := parts x
  generalize unpacked : x.toModel.unpack = u at shape
  have known : u.isFinite = true := unpacked ▸ finite
  rw [magnitude]
  cases shape with
  | infinity | notANumber => cases known
  | zero binary => exact whole_lt_overflow (by rw [binary]; decide) (by rw [binary]; decide)
  | finite mantissa exponent positive binary short most =>
      obtain ⟨rfl, rfl⟩ := binary
      exact whole_lt_overflow short most

end RecordMapper.Decimal
