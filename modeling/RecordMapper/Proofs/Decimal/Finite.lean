import RecordMapper.Proofs.Decimal.Equality
import RecordMapper.Proofs.Decimal.Rounding
/-! # Doubles that stay finite

An operation on doubles overflows only if the exponent of its result passes the greatest one.  `Within` is
a bound of the exponent, which rounding passes on (`within_round`); so do negation (`AtMost.neg`),
multiplication (`AtMost.mul`) and division (`AtMost.div`).  A product of finite doubles that is not
infinite is finite (`isFinite_mul`). -/
set_option autoImplicit false
namespace RecordMapper.Decimal

open Float.Model (Format UnpackedFloat totalExponent)
open Float.Model.UnpackedFloat (Accuracy ExtendedMantissa Sign pack packComponents roundWithAccuracy
  shiftToExponent shiftToTargetExponent unpack unpackExponent unpackExponent_packComponents)

inductive Within (most : Int) : UnpackedFloat → Prop
  | zero (side : Sign) : Within most (.zero side)
  | finite (side : Sign) (mantissa : Nat) (exponent : Int) (positive : 0 < mantissa)
      (le : exponent ≤ most) : Within most (.finite side mantissa exponent positive)

namespace Within
variable {u : UnpackedFloat} {e f : Int}

theorem mono (within : Within e u) (le : e ≤ f) : Within f u := by
  cases within with
  | zero side => exact .zero side
  | finite side mantissa exponent positive le' =>
      exact .finite side mantissa exponent positive (Int.le_trans le' le)

theorem isFinite (within : Within e u) : u.isFinite = true := by
  cases within <;> rfl

theorem neg (within : Within e u) : Within e u.neg := by
  cases within with
  | zero side => exact .zero (-side)
  | finite side mantissa exponent positive le => exact .finite (-side) mantissa exponent positive le

end Within

/-! ## Rounding -/

theorem mantissa_shift (m : ExtendedMantissa) (n : Nat) : (m >>> n).mantissa = m.mantissa / 2 ^ n := by
  induction n with
  | zero => simp [HShiftRight.hShiftRight, Nat.repeat]
  | succ n ih =>
      show (m >>> n).shiftRightOne.mantissa = _
      rw [ExtendedMantissa.shiftRightOne, ih, Nat.div_div_eq_div_mul, ← Nat.pow_succ]

theorem totalExponent_le {mantissa bits : Nat} {exponent top : Int} (short : mantissa < 2 ^ bits)
    (sum : bits + exponent ≤ top) (low : exponent < top) : totalExponent mantissa exponent ≤ top := by
  rw [totalExponent]
  by_cases none : mantissa = 0
  · rw [none, Nat.log2_zero]
    omega
  · have size := (Nat.log2_lt none).mpr short
    omega

theorem targetExponent_le {total top : Int} (le : total ≤ top) (least : -1021 ≤ top) :
    Format.binary64.targetExponent total ≤ top - 53 := by
  have width : Format.binary64.mantissaBits = 53 := by decide
  have minimum : Format.binary64.minExponent = -1074 := by decide
  rw [Format.targetExponent, width, minimum]
  omega

/-- Rounding adds one bit at most to a number that is less than `2 ^ top`. -/
theorem within_round (side : Sign) {mantissa bits : Nat} {exponent : Int} (top : Int)
    (accuracy : Accuracy) (short : mantissa < 2 ^ bits) (sum : bits + exponent ≤ top)
    (low : exponent + 53 ≤ top) (least : -1021 ≤ top) :
    Within (top - 52) (roundWithAccuracy Format.binary64 side mantissa exponent accuracy) := by
  have first := targetExponent_le (totalExponent_le short sum (by omega)) least
  have start : (ExtendedMantissa.ofMantissaAndAccuracy mantissa accuracy).mantissa = mantissa := by
    rcases accuracy with _ | (_ | _ | _) <;> rfl
  rw [roundWithAccuracy, shiftToTargetExponent, shiftToExponent]
  dsimp only
  generalize Format.binary64.targetExponent (totalExponent mantissa exponent) = target at *
  generalize shifted : (target - exponent).toNat = shift
  obtain ⟨-, up⟩ := roundedMantissa_bounds
    (ExtendedMantissa.ofMantissaAndAccuracy mantissa accuracy >>> shift)
  rw [mantissa_shift, start] at up
  generalize (ExtendedMantissa.ofMantissaAndAccuracy mantissa accuracy >>> shift).roundedMantissa =
    rounded at *
  have left : mantissa / 2 ^ shift < 2 ^ (bits - shift) := by
    apply Nat.div_lt_of_lt_mul
    rw [← Nat.pow_add]
    exact Nat.lt_of_lt_of_le short (Nat.pow_le_pow_right (by decide) (by omega))
  have short' : rounded < 2 ^ (bits - shift + 1) := by
    rw [Nat.pow_succ]
    generalize mantissa / 2 ^ shift = quotient at up left
    omega
  have total : totalExponent rounded (exponent + shift) ≤ top + 1 :=
    totalExponent_le short' (by omega) (by omega)
  have second := targetExponent_le total (by omega)
  rw [shiftToTargetExponent, shiftToExponent]
  dsimp only
  split
  · exact .zero side
  · exact .finite side _ _ _ (by omega)

/-! ## Packing -/

theorem within_packComponents (side : Sign) {exponent : BitVec 11} (mantissa : BitVec 52) {most : Int}
    (notAll : exponent ≠ -1#_) (le : (exponent.toNat : Int) - 1075 ≤ most) (least : -1074 ≤ most) :
    Within most (unpack Format.binary64 (packComponents Format.binary64 side exponent mantissa)) := by
  have stored : unpackExponent (packComponents Format.binary64 side exponent mantissa) = exponent :=
    unpackExponent_packComponents
  have bias : ((Format.binary64.exponentBias : Int) +
    Format.binary64.mantissaBitsWithoutImplicit) = 1075 := by decide
  by_cases none : exponent = 0#_
  · subst none
    rw [← stored] at notAll
    unfold unpack
    dsimp only
    rw [if_neg notAll, if_pos stored, bias, stored]
    split
    · exact .zero _
    · exact .finite _ _ _ _ (by simpa using least)
  · rw [unpack_packComponents side mantissa notAll none]
    exact .finite _ _ _ _ le

/-- A number is packed as infinity only if its exponent is too large. -/
theorem within_pack {u : UnpackedFloat} {most : Int} (within : Within most u) (least : -1074 ≤ most)
    (greatest : most ≤ 971) : Within most (unpack Format.binary64 (pack Format.binary64 u)) := by
  cases within with
  | zero side => cases side <;> exact .zero _
  | finite side mantissa exponent positive le =>
      have stored (n : Nat) (small : n < 2047) : BitVec.ofNat 11 n ≠ -1#_ ∧
          (BitVec.ofNat 11 n).toNat = n := by
        have value : (BitVec.ofNat 11 n).toNat = n := by
          rw [BitVec.toNat_ofNat]
          omega
        refine ⟨?_, value⟩
        intro all
        rw [all] at value
        have ones : (-1#11).toNat = 2047 := by decide
        omega
      show Within most (unpack Format.binary64
        (if 2 ^ 11 ≤ (exponent + (1023 : Nat) + (52 : Nat)).toNat + 1 then _
          else if mantissa.log2 + 1 = 53 then _ else _))
      rw [if_neg (by omega)]
      split
      · obtain ⟨notAll, value⟩ := stored (exponent + (1023 : Nat) + (52 : Nat)).toNat (by omega)
        apply within_packComponents side _ notAll _ least
        rw [value]
        omega
      · apply within_packComponents side _ (by decide) _ least
        simp
        omega

/-- A number is packed as a number or as infinity. -/
theorem isFinite_pack {u : UnpackedFloat} (finite : u.isFinite = true)
    (bounded : (unpack Format.binary64 (pack Format.binary64 u)).isInf = false) :
    (unpack Format.binary64 (pack Format.binary64 u)).isFinite = true := by
  cases u with
  | infinity | notANumber => cases finite
  | zero side =>
      have zero : Within 0 (.zero side) := .zero side
      exact (within_pack zero (by decide) (by decide)).isFinite
  | finite side mantissa exponent positive =>
      by_cases most : exponent ≤ 971
      · exact (within_pack (.finite side mantissa exponent positive most) (by decide) (by decide)).isFinite
      · rw [pack_overflow side positive (by omega), kept_infinity side] at bounded
        cases bounded

/-! ## Operations -/

/-- The double is a zero, or its exponent is at most `most`. -/
def AtMost (most : Int) (x : Float) : Prop := Within most x.toModel.unpack

section Operations
variable {x y : Float} {e f g : Int}

theorem AtMost.mono (atMost : AtMost e x) (le : e ≤ f) : AtMost f x := Within.mono atMost le

theorem AtMost.isFinite (atMost : AtMost e x) : x.isFinite = true := Within.isFinite atMost

theorem AtMost.neg (atMost : AtMost e x) (least : -1074 ≤ e) (greatest : e ≤ 971) : AtMost e (-x) :=
  within_pack (Within.neg atMost) least greatest

theorem isFinite_roundWithAccuracy (side : Sign) (mantissa : Nat) (exponent : Int) (accuracy : Accuracy) :
    (roundWithAccuracy Format.binary64 side mantissa exponent accuracy).isFinite = true := by
  rw [roundWithAccuracy]
  dsimp only
  split <;> rfl

theorem isFinite_product {u w : UnpackedFloat} (finite : u.isFinite = true) (finite' : w.isFinite = true) :
    (UnpackedFloat.mul Format.binary64 u w).isFinite = true := by
  cases u with
  | infinity | notANumber => cases finite
  | zero side =>
      cases w with
      | infinity | notANumber => cases finite'
      | zero | finite => rfl
  | finite side mantissa exponent positive =>
      cases w with
      | infinity | notANumber => cases finite'
      | zero => rfl
      | finite => exact isFinite_roundWithAccuracy ..

theorem isFinite_mul (finite : x.isFinite = true) (finite' : y.isFinite = true)
    (bounded : (x * y).isInf = false) : (x * y).isFinite = true :=
  isFinite_pack (isFinite_product finite finite') bounded

theorem mantissa_lt {side : Sign} {mantissa : Nat} {exponent : Int} {positive : 0 < mantissa}
    (unpacked : x.toModel.unpack = .finite side mantissa exponent positive) : mantissa < 2 ^ 53 := by
  have shape := parts x
  rw [unpacked] at shape
  cases shape with
  | finite _ _ _ _ short => exact short

theorem AtMost.mul (within : AtMost e x) (within' : AtMost f y) (sum : e + f + 54 ≤ g)
    (least : -1021 ≤ e + f) (greatest : g ≤ 971) : AtMost g (x * y) := by
  unfold AtMost at within within'
  refine within_pack (u := UnpackedFloat.mul Format.binary64 x.toModel.unpack y.toModel.unpack) ?_
    (by omega) greatest
  cases unpacked : x.toModel.unpack with
  | infinity | notANumber => rw [unpacked] at within; cases within
  | zero side =>
      cases unpacked' : y.toModel.unpack with
      | infinity | notANumber => rw [unpacked'] at within'; cases within'
      | zero | finite => exact .zero _
  | finite side mantissa exponent positive =>
      cases unpacked' : y.toModel.unpack with
      | infinity | notANumber => rw [unpacked'] at within'; cases within'
      | zero => exact .zero _
      | finite side' mantissa' exponent' positive' =>
          have short := mantissa_lt unpacked
          have short' := mantissa_lt unpacked'
          rw [unpacked] at within
          rw [unpacked'] at within'
          obtain _ | ⟨_, _, _, _, le⟩ := within
          obtain _ | ⟨_, _, _, _, le'⟩ := within'
          have product : mantissa * mantissa' < 2 ^ 106 := by
            calc mantissa * mantissa' < 2 ^ 53 * 2 ^ 53 := Nat.mul_lt_mul'' short short'
              _ = 2 ^ 106 := by norm_num
          exact (within_round (side * side') (e + f + 106) .exact product (by omega) (by omega)
            (by omega)).mono (by omega)

def Reaches (least : Int) : UnpackedFloat → Prop
  | .finite _ mantissa exponent _ => 2 ^ 52 ≤ mantissa ∧ least ≤ exponent
  | .zero _ | .infinity _ | .notANumber => False

instance (least : Int) : DecidablePred (Reaches least)
  | .finite .. => inferInstanceAs (Decidable (_ ∧ _))
  | .zero _ | .infinity _ | .notANumber => inferInstanceAs (Decidable False)

/-- The double has 53 bits, and its exponent is at least `least`. -/
structure AtLeast (least : Int) (x : Float) : Prop where
  reaches : Reaches least x.toModel.unpack

instance (least : Int) (x : Float) : Decidable (AtLeast least x) :=
  decidable_of_iff (Reaches least x.toModel.unpack) ⟨AtLeast.mk, AtLeast.reaches⟩

theorem AtLeast.mono (atLeast : AtLeast f x) (le : e ≤ f) : AtLeast e x := by
  obtain ⟨reaches⟩ := atLeast
  refine ⟨?_⟩
  cases unpacked : x.toModel.unpack with
  | finite => rw [unpacked] at reaches; exact ⟨reaches.1, Int.le_trans le reaches.2⟩
  | zero | infinity | notANumber => rw [unpacked] at reaches; exact reaches.elim

theorem AtLeast.isFinite (atLeast : AtLeast e x) : x.isFinite = true := by
  obtain ⟨reaches⟩ := atLeast
  show x.toModel.unpack.isFinite = true
  cases unpacked : x.toModel.unpack with
  | finite => rfl
  | zero | infinity | notANumber => rw [unpacked] at reaches; exact reaches.elim

/-- A quotient is greater than the dividend by as much as the divisor falls short of one. -/
theorem AtMost.div (within : AtMost e x) (atLeast : AtLeast f y) (difference : e - f + 1 ≤ g)
    (least : -1073 ≤ g) (greatest : g ≤ 971) : AtMost g (x / y) := by
  obtain ⟨reaches⟩ := atLeast
  unfold AtMost at within
  refine within_pack (u := UnpackedFloat.div Format.binary64 x.toModel.unpack y.toModel.unpack) ?_
    (by omega) greatest
  cases unpacked' : y.toModel.unpack with
  | zero | infinity | notANumber => rw [unpacked'] at reaches; exact reaches.elim
  | finite side' mantissa' exponent' positive' =>
      cases unpacked : x.toModel.unpack with
      | infinity | notANumber => rw [unpacked] at within; cases within
      | zero side => exact .zero _
      | finite side mantissa exponent positive =>
          have short := mantissa_lt unpacked
          rw [unpacked] at within
          rw [unpacked'] at reaches
          obtain _ | ⟨_, _, _, _, le⟩ := within
          obtain ⟨full, le'⟩ := reaches
          rw [UnpackedFloat.div, UnpackedFloat.divCore]
          dsimp only
          generalize aimed : min (exponent - exponent') (Format.binary64.targetExponent
            (totalExponent mantissa exponent - totalExponent mantissa' exponent')) = target
          generalize shifted : (exponent - exponent' - target).toNat = shift
          have quotient : mantissa <<< shift / mantissa' < 2 ^ (shift + 1) := by
            apply Nat.div_lt_of_lt_mul
            calc mantissa <<< shift = mantissa * 2 ^ shift := Nat.shiftLeft_eq ..
              _ < 2 ^ 53 * 2 ^ shift := Nat.mul_lt_mul_of_pos_right short (Nat.two_pow_pos shift)
              _ = 2 ^ 52 * 2 ^ (shift + 1) := by ring
              _ ≤ mantissa' * 2 ^ (shift + 1) := Nat.mul_le_mul_right _ full
          exact (within_round (side / side') (g + 52)
            (UnpackedFloat.accuracyOfFraction (mantissa <<< shift % mantissa') mantissa') quotient
            (by omega) (by omega) (by omega)).mono (by omega)

end Operations

theorem atMost_of_isFinite {x : Float} (finite : x.isFinite = true) : AtMost 971 x := by
  have shape := parts x
  have number : x.toModel.unpack.isFinite = true := finite
  unfold AtMost
  generalize x.toModel.unpack = u at shape number ⊢
  cases shape with
  | infinity | notANumber => cases number
  | zero => exact .zero _
  | finite mantissa exponent positive _ _ most => exact .finite _ mantissa exponent positive most

theorem isFinite_neg {x : Float} (finite : x.isFinite = true) : (-x).isFinite = true :=
  ((atMost_of_isFinite finite).neg (by decide) (by decide)).isFinite

/-! ## Whole numbers -/

theorem atMost_toFloat (n : UInt64) : AtMost 12 n.toFloat := by
  refine within_pack (u := UnpackedFloat.ofUInt64 Format.binary64 n) ?_ (by decide) (by decide)
  have bound := n.toNat_lt
  rw [UnpackedFloat.ofUInt64, UnpackedFloat.ofNat, UnpackedFloat.ofInt, UnpackedFloat.normalize]
  split
  · next negative =>
      rw [compare_lt_iff_lt] at negative
      omega
  · exact .zero _
  · rw [UnpackedFloat.round, UnpackedFloat.decreaseExponent]
    dsimp only
    generalize (0 - Format.binary64.targetExponent (totalExponent (n.toNat : Int).toNat 0)).toNat = shift
    have short : (n.toNat : Int).toNat <<< shift < 2 ^ (64 + shift) := by
      rw [Nat.shiftLeft_eq, Nat.pow_add, Int.toNat_natCast]
      exact Nat.mul_lt_mul_of_pos_right bound (Nat.two_pow_pos shift)
    exact within_round _ 64 .exact short (by omega) (by omega) (by omega)

/-- The double nearest to a whole number of 64 bits. -/
theorem atMost_ofNat {n : Nat} (fits : n < 2 ^ 64) : AtMost 14 (Float.ofNat n) := by
  show AtMost 14 (Float.ofScientific n false 0)
  rw [Float.ofScientific]
  split
  · have one : AtMost (-52) Float.exactlyRepresentablePowersOfTen[0] := by
      show Within (-52) (.finite .positive (2 ^ 52) (-52) (by decide))
      exact .finite .positive _ _ _ (Int.le_refl _)
    exact (atMost_toFloat _).mul one (by decide) (by decide) (by decide)
  · next large =>
      have some : n ≠ 0 := by
        rintro rfl
        exact large (by decide)
      have rounded : Within 12 (UnpackedFloat.ofScientific Format.binary64 n 0) := by
        have short : n * 2 ^ 53 < 2 ^ 117 := by omega
        rw [ofScientific_whole some]
        exact within_round _ 64 .exact short (by decide) (by decide) (by decide)
      exact (within_pack rounded (by decide) (by decide)).mono (by decide)

end RecordMapper.Decimal
