import Mathlib.Tactic.Ring
import RecordMapper.Decimal.Literal
import RecordMapper.Proofs.Decimal.Double
/-! # The double nearest to a large integer

An integer of more than 53 bits is cut off to the first 53 (`shift_exact`), which are then rounded by
what was cut off (`roundedMantissa_odd`).  What comes of it is a finite double if and only if the integer
is less than `overflow`, and infinity otherwise (`rounded_nearest`). -/
set_option autoImplicit false
namespace RecordMapper.Decimal

open Float.Model (Format UnpackedFloat totalExponent)
open Float.Model.UnpackedFloat (Accuracy ExtendedMantissa Sign pack packComponents roundWithAccuracy
  shiftToExponent shiftToTargetExponent unpack unpackExponent unpackExponent_packComponents
  unpackMantissa unpackMantissa_packComponents unpackSign)

/-! ## Cutting off -/

/-- What is left of a number without its last bits: the highest of these, and whether any below it
is set. -/
theorem shift_exact (m j : Nat) :
    (⟨m, false, false⟩ : ExtendedMantissa) >>> (j + 1) =
      ⟨m / 2 ^ (j + 1), m / 2 ^ j % 2 != 0, m % 2 ^ j != 0⟩ := by
  induction j with
  | zero => simp [HShiftRight.hShiftRight, Nat.repeat, ExtendedMantissa.shiftRightOne, Nat.mod_one]
  | succ j ih =>
      show ((⟨m, false, false⟩ : ExtendedMantissa) >>> (j + 1)).shiftRightOne = _
      rw [ih, ExtendedMantissa.shiftRightOne]
      dsimp only
      have quotient : m / 2 ^ (j + 1) / 2 = m / 2 ^ (j + 1 + 1) := by
        rw [Nat.div_div_eq_div_mul, pow_succ 2 (j + 1)]
      have sticky : (m / 2 ^ j % 2 != 0 || m % 2 ^ j != 0) = (m % 2 ^ (j + 1) != 0) := by
        have split : m % 2 ^ (j + 1) = m % 2 ^ j + 2 ^ j * (m / 2 ^ j % 2) := Nat.mod_pow_succ
        have positive := Nat.two_pow_pos j
        rw [split, Bool.eq_iff_iff]
        simp only [Bool.or_eq_true, bne_iff_ne, ne_eq, Nat.add_eq_zero_iff, Nat.mul_eq_zero]
        omega
      rw [quotient, sticky]

theorem roundedMantissa_bounds (m : ExtendedMantissa) :
    m.mantissa ≤ m.roundedMantissa ∧ m.roundedMantissa ≤ m.mantissa + 1 := by
  obtain ⟨mantissa, _ | _, _ | _⟩ := m
  · exact ⟨Nat.le_refl _, Nat.le_succ _⟩
  · exact ⟨Nat.le_refl _, Nat.le_succ _⟩
  · show mantissa ≤ mantissa + mantissa % 2 ∧ mantissa + mantissa % 2 ≤ mantissa + 1
    omega
  · exact ⟨Nat.le_succ _, Nat.le_refl _⟩

/-- An odd number is rounded up if half of its last bit or more was dropped. -/
theorem roundedMantissa_odd {m : ExtendedMantissa} (odd : m.mantissa % 2 = 1) :
    m.roundedMantissa = m.mantissa + 1 ↔ m.roundBit = true := by
  obtain ⟨mantissa, _ | _, _ | _⟩ := m
  · exact iff_of_false (Nat.ne_of_lt (Nat.lt_succ_self _)) nofun
  · exact iff_of_false (Nat.ne_of_lt (Nat.lt_succ_self _)) nofun
  · exact iff_of_true (congrArg (mantissa + ·) odd) rfl
  · exact iff_of_true rfl rfl

theorem roundBit_iff (m j : Nat) : (m / 2 ^ j % 2 != 0) = true ↔ 2 ^ j ≤ m % 2 ^ (j + 1) := by
  have split : m % 2 ^ (j + 1) = m % 2 ^ j + 2 ^ j * (m / 2 ^ j % 2) := Nat.mod_pow_succ
  have below := Nat.mod_lt m (Nat.two_pow_pos j)
  rw [split, bne_iff_ne]
  rcases Nat.mod_two_eq_zero_or_one (m / 2 ^ j) with bit | bit <;> rw [bit] <;> omega

theorem shiftToTargetExponent_eq {mantissa : Nat} {exponent target : Int}
    (aimed : Format.binary64.targetExponent (totalExponent mantissa exponent) = target)
    (shift : Nat) (shifted : target - exponent = shift) :
    shiftToTargetExponent Format.binary64 mantissa exponent .exact =
      ((⟨mantissa, false, false⟩ : ExtendedMantissa) >>> shift, target) := by
  rw [shiftToTargetExponent, aimed, shiftToExponent]
  have amount : (target - exponent).toNat = shift := by omega
  rw [amount]
  exact congrArg (Prod.mk _) (by omega)

theorem targetExponent_eq (bits : Nat) {mantissa : Nat} {exponent : Int} (some : mantissa ≠ 0)
    (low : 2 ^ bits ≤ mantissa) (high : mantissa < 2 ^ (bits + 1))
    (least : -1074 ≤ bits + exponent - 52) :
    Format.binary64.targetExponent (totalExponent mantissa exponent) = bits + exponent - 52 := by
  have size : mantissa.log2 = bits := (Nat.log2_eq_iff some).mpr ⟨low, high⟩
  have width : Format.binary64.mantissaBits = 53 := by decide
  have minimum : Format.binary64.minExponent = -1074 := by decide
  rw [Format.targetExponent, totalExponent, size, width, minimum]
  omega

/-! ## Rounding -/

/-- A number is less than `2 ^ 54 - 1` units if and only if rounding it to 53 bits does not carry over, a
unit being half of the last of these bits. -/
theorem lt_ones_iff {n unit rounded quotient remainder : Nat}
    (rest : 2 ^ 54 * unit * quotient + remainder = n * 2 ^ 53) (dropped : remainder < 2 ^ 54 * unit)
    (room : quotient < 2 ^ 53) (down : quotient ≤ rounded) (up : rounded ≤ quotient + 1)
    (odd : quotient % 2 = 1 → (rounded = quotient + 1 ↔ 2 ^ 53 * unit ≤ remainder)) :
    n < (2 ^ 54 - 1) * unit ↔ rounded < 2 ^ 53 := by
  by_cases top : quotient = 2 ^ 53 - 1
  · subst top
    omega
  · have below : quotient + 1 ≤ 2 ^ 53 - 1 := by omega
    have product := Nat.mul_le_mul_left (2 ^ 54 * unit) below
    rw [Nat.mul_add] at product
    omega

/-- A number lies below `overflow` if it has fewer than 1024 bits, or 1024 and rounding does not carry
over. -/
theorem lt_overflow_iff {n bits rounded quotient remainder : Nat} (low : 2 ^ bits ≤ n)
    (high : n < 2 ^ (bits + 1)) (rest : 2 ^ (bits + 1) * quotient + remainder = n * 2 ^ 53)
    (dropped : remainder < 2 ^ (bits + 1)) (room : quotient < 2 ^ 53) (down : quotient ≤ rounded)
    (up : rounded ≤ quotient + 1)
    (odd : quotient % 2 = 1 → (rounded = quotient + 1 ↔ 2 ^ bits ≤ remainder)) :
    n < overflow ↔ bits ≤ 1022 ∨ bits = 1023 ∧ rounded < 2 ^ 53 := by
  obtain ⟨unit, is, positive⟩ : ∃ unit, 2 ^ 970 = unit ∧ 0 < unit := ⟨_, rfl, Nat.two_pow_pos 970⟩
  have below {power bits : Nat} (few : power ≤ bits + 970) : 2 ^ power ≤ 2 ^ bits * unit :=
    is ▸ two_pow_le few
  have above {power bits : Nat} (many : bits + 970 ≤ power) : 2 ^ bits * unit ≤ 2 ^ power :=
    is ▸ le_two_pow many
  rw [overflow, is]
  rcases Nat.lt_trichotomy bits 1023 with few | exact | many
  · have all : 2 ^ (bits + 1) ≤ 2 ^ 53 * unit := below (by omega)
    omega
  · have half : 2 ^ bits = 2 ^ 53 * unit := Nat.le_antisymm (below (by omega)) (above (by omega))
    have whole : 2 ^ (bits + 1) = 2 ^ 54 * unit :=
      Nat.le_antisymm (below (by omega)) (above (by omega))
    rw [half] at odd
    rw [whole] at rest dropped
    rw [lt_ones_iff rest dropped room down up odd]
    simp [exact]
  · have all : 2 ^ 54 * unit ≤ 2 ^ bits := above (by omega)
    omega

theorem quotient_bounds {n bits : Nat} (low : 2 ^ bits ≤ n) (high : n < 2 ^ (bits + 1)) :
    2 ^ 52 ≤ n * 2 ^ 53 / 2 ^ (bits + 1) ∧ n * 2 ^ 53 / 2 ^ (bits + 1) < 2 ^ 53 := by
  constructor
  · rw [Nat.le_div_iff_mul_le (Nat.two_pow_pos _)]
    calc 2 ^ 52 * 2 ^ (bits + 1) = 2 ^ bits * 2 ^ 53 := by ring
      _ ≤ n * 2 ^ 53 := Nat.mul_le_mul_right _ low
  · rw [Nat.div_lt_iff_lt_mul (Nat.two_pow_pos _), Nat.mul_comm (2 ^ 53)]
    exact Nat.mul_lt_mul_of_pos_right high (Nat.two_pow_pos _)

theorem roundWithAccuracy_eq (sign : Sign) {mantissa : Nat} {exponent target : Int}
    (aimed : Format.binary64.targetExponent (totalExponent mantissa exponent) = target)
    (shift : Nat) (shifted : target - exponent = shift) (least : -1074 ≤ target)
    {rounded : Nat}
    (is : ((⟨mantissa, false, false⟩ : ExtendedMantissa) >>> shift).roundedMantissa = rounded)
    (low : 2 ^ 52 ≤ rounded) :
    (∀ small : rounded < 2 ^ 53, roundWithAccuracy Format.binary64 sign mantissa exponent .exact =
      .finite sign rounded target (by omega)) ∧
    (rounded = 2 ^ 53 → roundWithAccuracy Format.binary64 sign mantissa exponent .exact =
      .finite sign (2 ^ 52) (target + 1) (by decide)) := by
  rw [roundWithAccuracy, shiftToTargetExponent_eq aimed shift shifted]
  dsimp only
  rw [is]
  constructor
  · intro small
    have again : Format.binary64.targetExponent (totalExponent rounded target) = target := by
      rw [targetExponent_eq 52 (by omega) low small (by omega)]
      omega
    rw [shiftToTargetExponent_eq again 0 (by omega)]
    have some : rounded ≠ 0 := by omega
    exact dif_neg some
  · rintro rfl
    have again : Format.binary64.targetExponent (totalExponent (2 ^ 53) target) = target + 1 := by
      rw [targetExponent_eq 53 (by decide) (by decide) (by decide) (by omega)]
      omega
    rw [shiftToTargetExponent_eq again 1 (by omega)]
    rfl

/-- A large number is rounded to 53 bits, and to no more than the greatest double if it is less than
`overflow`. -/
theorem round_large {n : Nat} (large : 2 ^ 63 ≤ n) (sign : Sign) :
    ∃ mantissa exponent positive,
      roundWithAccuracy Format.binary64 sign (n * 2 ^ 53) (-53) .exact =
        .finite sign mantissa exponent positive ∧
      2 ^ 52 ≤ mantissa ∧ mantissa < 2 ^ 53 ∧ 11 ≤ exponent ∧ (exponent ≤ 971 ↔ n < overflow) := by
  obtain ⟨bits, size⟩ : ∃ bits, n.log2 = bits := ⟨_, rfl⟩
  have some : n ≠ 0 := by omega
  obtain ⟨low, high⟩ := (Nat.log2_eq_iff some).mp size
  have least : 63 ≤ bits := size ▸ (Nat.le_log2 some).mpr large
  obtain ⟨quotientLow, quotientHigh⟩ := quotient_bounds low high
  have aimed : Format.binary64.targetExponent (totalExponent (n * 2 ^ 53) (-53)) = bits - 52 := by
    have wideLow : 2 ^ (bits + 53) ≤ n * 2 ^ 53 := by
      rw [pow_add]
      exact Nat.mul_le_mul_right _ low
    have wideHigh : n * 2 ^ 53 < 2 ^ (bits + 53 + 1) := by
      rw [add_right_comm, pow_add]
      exact Nat.mul_lt_mul_of_pos_right high (Nat.two_pow_pos _)
    rw [targetExponent_eq (bits + 53) (by omega) wideLow wideHigh (by omega)]
    omega
  obtain ⟨down, up⟩ := roundedMantissa_bounds
    ((⟨n * 2 ^ 53, false, false⟩ : ExtendedMantissa) >>> (bits + 1))
  have odd := @roundedMantissa_odd
    ((⟨n * 2 ^ 53, false, false⟩ : ExtendedMantissa) >>> (bits + 1))
  generalize is : ((⟨n * 2 ^ 53, false, false⟩ : ExtendedMantissa) >>> (bits + 1)).roundedMantissa =
    rounded at down up odd
  rw [shift_exact] at down up odd
  dsimp only at down up odd
  rw [roundBit_iff] at odd
  have rest := Nat.div_add_mod (n * 2 ^ 53) (2 ^ (bits + 1))
  have dropped := Nat.mod_lt (n * 2 ^ 53) (Nat.two_pow_pos (bits + 1))
  generalize n * 2 ^ 53 / 2 ^ (bits + 1) = quotient at *
  generalize n * 2 ^ 53 % 2 ^ (bits + 1) = remainder at *
  have below := lt_overflow_iff low high rest dropped quotientHigh down up odd
  obtain ⟨inside, carried⟩ :=
    roundWithAccuracy_eq sign aimed (bits + 1) (by omega) (by omega) is (by omega)
  rcases Nat.lt_or_ge rounded (2 ^ 53) with small | full
  · refine ⟨rounded, _, _, inside small, by omega, small, by omega, ?_⟩
    omega
  · refine ⟨2 ^ 52, _, _, carried (by omega), by decide, by decide, by omega, ?_⟩
    omega

/-! ## Packing -/

theorem unpackSign_packComponents {spec : Format} (sign : Sign) (exponent : BitVec spec.exponentBits)
    (mantissa : BitVec spec.mantissaBitsWithoutImplicit) :
    Sign.ofBitVec (unpackSign (packComponents spec sign exponent mantissa)) = sign := by
  have bit : unpackSign (packComponents spec sign exponent mantissa) = sign.toBitVec := by
    ext i inside
    obtain rfl : i = 0 := by omega
    unfold unpackSign
    simp [packComponents, BitVec.getLsbD_append, BitVec.getElem_append]
  rw [bit]
  cases sign <;> rfl

def Kept (u : UnpackedFloat) : Prop := unpack Format.binary64 (pack Format.binary64 u) = u

theorem kept_infinity (sign : Sign) : Kept (.infinity sign) := by
  cases sign <;> rfl

theorem pack_normal (sign : Sign) {mantissa biased : Nat} (positive : 0 < mantissa)
    (low : 2 ^ 52 ≤ mantissa) (high : mantissa < 2 ^ 53) (most : biased ≤ 2046) :
    pack Format.binary64 (.finite sign mantissa (biased - 1075) positive) =
      packComponents Format.binary64 sign (BitVec.ofNat 11 biased) (BitVec.ofNat 52 mantissa) := by
  have size : mantissa.log2 = 52 := (Nat.log2_eq_iff (by omega)).mpr ⟨low, high⟩
  have same : ((biased : Int) - 1075 + (1023 : Nat) + (52 : Nat)).toNat = biased := by omega
  show (if 2 ^ 11 ≤ ((biased : Int) - 1075 + (1023 : Nat) + (52 : Nat)).toNat + 1 then _
    else if mantissa.log2 + 1 = 53 then _ else _) = _
  rw [same, size, if_neg (by omega), if_pos rfl]
  exact congrArg (fun stored => packComponents Format.binary64 sign (.ofNat 11 stored) _) same

theorem finite_congr {sign other : Sign} {m n : Nat} {e f : Int} {positive : 0 < m}
    {positive' : 0 < n} (signs : sign = other) (mantissas : m = n) (exponents : e = f) :
    UnpackedFloat.finite sign m e positive = .finite other n f positive' := by
  subst signs mantissas exponents
  rfl

theorem unpack_packComponents (sign : Sign) {exponent : BitVec 11} (mantissa : BitVec 52)
    (notAll : exponent ≠ -1#_) (notNone : exponent ≠ 0#_) :
    unpack Format.binary64 (packComponents Format.binary64 sign exponent mantissa) =
      .finite sign (1#1 ++ mantissa).toNat (exponent.toNat - 1075) (by rw [toNat_implicit]; omega) := by
  have stored : unpackExponent (packComponents Format.binary64 sign exponent mantissa) = exponent :=
    unpackExponent_packComponents
  have fraction : unpackMantissa (packComponents Format.binary64 sign exponent mantissa) = mantissa :=
    unpackMantissa_packComponents
  rw [← stored] at notAll notNone
  unfold unpack
  dsimp only
  rw [if_neg notAll, if_neg notNone]
  refine finite_congr ?_ ?_ ?_
  · exact @unpackSign_packComponents Format.binary64 sign exponent mantissa
  · rw [fraction]
  · rw [stored]
    exact congrArg (fun bias => (exponent.toNat : Int) - bias) (by decide)

theorem kept_normal (sign : Sign) {mantissa : Nat} {exponent : Int} (positive : 0 < mantissa)
    (low : 2 ^ 52 ≤ mantissa) (high : mantissa < 2 ^ 53) (least : -1074 ≤ exponent)
    (most : exponent ≤ 971) : Kept (.finite sign mantissa exponent positive) := by
  obtain ⟨biased, rfl⟩ : ∃ biased : Nat, exponent = biased - 1075 :=
    ⟨(exponent + 1075).toNat, by omega⟩
  have stored : (BitVec.ofNat 11 biased).toNat = biased := by
    rw [BitVec.toNat_ofNat]
    omega
  have fraction : (1#1 ++ BitVec.ofNat 52 mantissa).toNat = mantissa := by
    rw [toNat_implicit, BitVec.toNat_ofNat]
    omega
  have differs (other : BitVec 11) (ne : biased ≠ other.toNat) : BitVec.ofNat 11 biased ≠ other := by
    rintro rfl
    exact ne stored.symm
  have notAll := differs (-1#_) (show biased ≠ 2047 by omega)
  have notNone := differs 0#_ (show biased ≠ 0 by omega)
  have whole := unpack_packComponents sign (BitVec.ofNat 52 mantissa) notAll notNone
  rw [Kept, pack_normal sign positive low high (by omega), whole]
  exact finite_congr rfl fraction (by rw [stored])

theorem pack_overflow (sign : Sign) {mantissa : Nat} {exponent : Int} (positive : 0 < mantissa)
    (most : 971 < exponent) : pack Format.binary64 (.finite sign mantissa exponent positive) =
      pack Format.binary64 (.infinity sign) := by
  show (if 2 ^ 11 ≤ (exponent + (1023 : Nat) + (52 : Nat)).toNat + 1 then _ else _) = _
  exact if_pos (by omega)

/-! ## The nearest double -/

inductive Rounded (sign : Sign) (n : Nat) : UnpackedFloat → Prop
  | finite (mantissa : Nat) (exponent : Int) (positive : 0 < mantissa) (less : n < overflow)
      (low : 2 ^ 52 ≤ mantissa) (high : mantissa < 2 ^ 53) (least : 11 ≤ exponent)
      (most : exponent ≤ 971) : Rounded sign n (.finite sign mantissa exponent positive)
  | infinity (most : overflow ≤ n) : Rounded sign n (.infinity sign)

namespace Rounded
variable {side : Sign} {n : Nat} {u : UnpackedFloat}

theorem kept (rounded : Rounded side n u) : Kept u := by
  cases rounded with
  | infinity => exact kept_infinity side
  | finite mantissa exponent positive less low high least most =>
      exact kept_normal side positive low high (by omega) most

theorem neg (rounded : Rounded side n u) : Rounded (-side) n u.neg := by
  cases rounded with
  | infinity most => exact .infinity most
  | finite mantissa exponent positive less low high least most =>
      exact .finite mantissa exponent positive less low high least most

theorem neg_float {x : Float} (rounded : Rounded side n x.toModel.unpack) :
    Rounded (-side) n (-x).toModel.unpack := by
  show Rounded (-side) n (unpack Format.binary64 (pack Format.binary64 x.toModel.unpack.neg))
  rw [rounded.neg.kept]
  exact rounded.neg

end Rounded

theorem overflow_le_of_digitCount {n : Nat} (many : 310 < digitCount n) : overflow ≤ n := by
  have limit : overflow ≤ 10 ^ 310 := by decide +kernel
  have long : ¬ n < 10 ^ 310 := by
    rw [← Nat.length_toDigits_le_iff (by decide) (by decide)]
    exact Nat.not_le.mpr many
  exact limit.trans (Nat.le_of_not_lt long)

theorem mul_finite (spec : Format) (s t : Sign) {m n : Nat} (e f : Int) (positive : 0 < m)
    (positive' : 0 < n) : UnpackedFloat.mul spec (.finite s m e positive) (.finite t n f positive') =
      roundWithAccuracy spec (s * t) (m * n) (e + f) .exact := rfl

/-- A whole number times a power of ten is rounded once. -/
theorem ofScientific_power {n e : Nat} (some : n ≠ 0) (few : e ≤ 2 ^ 11) :
    UnpackedFloat.ofScientific Format.binary64 n e =
      roundWithAccuracy Format.binary64 .positive (n * 10 ^ e * 2 ^ 53) (-53) .exact := by
  have shifted : n <<< Format.binary64.mantissaBits * 10 ^ (e : Int).toNat = n * 10 ^ e * 2 ^ 53 := by
    rw [Nat.shiftLeft_eq, Int.toNat_natCast, Nat.mul_right_comm]
    rfl
  have notHuge : ¬ (e : Int) > (2 ^ 11 : Int) := by omega
  have notTiny : ¬ (e : Int) < -((2 ^ 11 : Int) + n.log2) := by omega
  rw [UnpackedFloat.ofScientific, dif_neg some, if_neg notHuge, if_neg notTiny,
    if_pos (Int.natCast_nonneg e), mul_finite, shifted]
  rfl

theorem ofScientific_whole {n : Nat} (some : n ≠ 0) :
    UnpackedFloat.ofScientific Format.binary64 n 0 =
      roundWithAccuracy Format.binary64 .positive (n * 2 ^ 53) (-53) .exact := by
  have power := ofScientific_power some (Nat.zero_le (2 ^ 11))
  rw [Nat.pow_zero, Nat.mul_one] at power
  exact power

theorem rounded_nearest {n : Nat} (large : 2 ^ 63 ≤ n) :
    Rounded .positive n (nearest n 0).toModel.unpack := by
  have some : n ≠ 0 := by omega
  have top : (0 : Int) + digitCount n = digitCount n := Int.zero_add _
  have notTiny : ¬ (n = 0 || decide ((digitCount n : Int) < -330)) = true := by
    simp [some]
  rw [nearest, top, if_neg notTiny]
  by_cases many : 310 < digitCount n
  · rw [if_pos (by exact_mod_cast many)]
    exact .infinity (overflow_le_of_digitCount many)
  · rw [if_neg (by exact_mod_cast many)]
    have slow : Float.ofScientific n (decide ((0 : Int) < 0)) (0 : Int).natAbs =
        Float.ofModel (Float.Model.ofScientific n 0) := by
      rw [Float.ofScientific, dif_neg (by omega)]
      rfl
    rw [slow]
    show Rounded .positive n (unpack Format.binary64 (pack Format.binary64 _))
    obtain ⟨mantissa, exponent, positive, is, low, high, least, most⟩ := round_large large .positive
    rw [ofScientific_whole some, is]
    by_cases less : n < overflow
    · have rounded : Rounded .positive n (.finite .positive mantissa exponent positive) :=
        .finite mantissa exponent positive less low high least (most.mpr less)
      rw [rounded.kept]
      exact rounded
    · rw [pack_overflow .positive positive (by omega), kept_infinity .positive]
      exact .infinity (Nat.le_of_not_lt less)

end RecordMapper.Decimal
