import RecordMapper.Proofs.Decimal.Finite
import RecordMapper.Proofs.Json.Depth
import RecordMapper.Proofs.Json.Equality
/-! # Documents that were read

Whatever text or bytes a document is read from, its numbers are finite (`isFinite_ofBytes`): the reader
refuses a product that overflows, and divides within the range of doubles. -/
set_option autoImplicit false
namespace RecordMapper.Json

open Decimal (AtLeast AtMost)
open Float.Model (Format UnpackedFloat)

namespace Reader

/-! ## Powers of ten -/

/-- A power of ten is rounded to a double that is no less than the power of two before it. -/
theorem atLeast_large {n : Nat} (large : 22 < n) (most : n ≤ 308) :
    AtLeast 11 (powerOfTen n) := by
  have limit : 10 ^ 154 * 10 ^ 154 < Decimal.overflow := by decide +kernel
  have few : n ≤ 154 + 154 := most
  have less : 10 ^ n < Decimal.overflow := by
    rw [← Nat.pow_add] at limit
    exact Nat.lt_of_le_of_lt (Nat.pow_le_pow_right (by decide) few) limit
  have wide : 2 ^ 63 ≤ 10 ^ n :=
    Nat.le_trans (by decide) (Nat.pow_le_pow_right (by decide) (Nat.le_of_lt large))
  obtain ⟨mantissa, exponent, positive, is, low, high, least, fits⟩ :=
    Decimal.round_large wide .positive
  have rounded : UnpackedFloat.ofScientific Format.binary64 1 n =
      .finite .positive mantissa exponent positive := by
    rw [Decimal.ofScientific_power (by decide) (by omega), Nat.one_mul, is]
  have slow : powerOfTen n = Float.ofModel (Float.Model.ofScientific 1 n) := by
    rw [powerOfTen, Float.ofScientific, dif_neg (by omega)]
    rfl
  have kept := Decimal.kept_normal .positive positive low high (by omega) (fits.mpr less)
  rw [slow]
  refine ⟨?_⟩
  show Decimal.Reaches 11 (UnpackedFloat.unpack Format.binary64 (UnpackedFloat.pack Format.binary64
    (UnpackedFloat.ofScientific Format.binary64 1 n)))
  rw [rounded, kept]
  exact ⟨low, least⟩

theorem atLeast_small : ∀ n < 23, AtLeast (-52) (powerOfTen n) := by
  decide +kernel

theorem atLeast_powerOfTen {n : Nat} (most : n ≤ 308) : AtLeast (-52) (powerOfTen n) := by
  by_cases small : n < 23
  · exact atLeast_small n small
  · exact (atLeast_large (by omega) most).mono (by decide)

/-! ## Numbers -/

/-- Dividing by a power of ten in steps never overflows. -/
theorem atMost_divideDown (x : Float) (n : Nat) (atMost : AtMost 14 x) : AtMost 67 (divideDown x n) := by
  induction x, n using divideDown.induct with
  | case1 x n few =>
      rw [divideDown, if_pos few]
      exact atMost.div (atLeast_powerOfTen few) (by decide) (by decide) (by decide)
  | case2 x n many zero =>
      rw [divideDown, if_neg many, if_pos zero]
      exact atMost.mono (by decide)
  | case3 x n many some ih =>
      rw [divideDown, if_neg many, if_neg some]
      apply ih
      have large := atLeast_large (n := 308) (by decide) (by decide)
      exact atMost.div large (by decide) (by decide) (by decide)

def Bounded (reader : Reader Number) : Prop :=
  ∀ bytes n rest, reader bytes = .ok (n, rest) → n.IsFinite

section Numbers
variable (negative : Bool) {significand : Nat}

theorem isFinite_signed {x : Float} (finite : x.isFinite = true) :
    (if negative then -x else x).isFinite = true := by
  cases negative with
  | false => exact finite
  | true => exact Decimal.isFinite_neg finite

variable (fits : significand ≤ significandMax)
include fits

theorem bounded_scaled (exponent : Int) : Bounded (scaled negative significand exponent) := by
  have whole := Decimal.atMost_ofNat (Nat.lt_succ_of_le fits)
  intro bytes n rest read
  rw [scaled] at read
  dsimp only at read
  split at read
  · obtain rfl := congrArg Prod.fst (Except.ok.inj read)
    exact isFinite_signed negative (atMost_divideDown _ _ whole).isFinite
  split at read
  · next few =>
    split at read
    · cases read
    · next bounded =>
      obtain rfl := congrArg Prod.fst (Except.ok.inj read)
      have power := (atLeast_powerOfTen (n := exponent.toNat) (by omega)).isFinite
      exact isFinite_signed negative (Decimal.isFinite_mul whole.isFinite power (by simpa using bounded))
  split at read
  · obtain rfl := congrArg Prod.fst (Except.ok.inj read)
    exact isFinite_signed negative whole.isFinite
  · cases read

theorem bounded_exponentPart (exponent : Int) : Bounded (exponentPart negative significand exponent) := by
  intro bytes n rest read
  rw [exponentPart] at read
  split at read
  · cases read
  split at read
  · cases read
  split at read
  · exact bounded_scaled negative fits _ _ n rest read
  split at read
  · cases read
  · obtain rfl := congrArg Prod.fst (Except.ok.inj read)
    have zero : (0.0 : Float).isFinite = true := by decide +kernel
    exact isFinite_signed negative zero

theorem bounded_floatEnd (exponent : Int) : Bounded (floatEnd negative significand exponent) := by
  intro bytes n rest read
  cases bytes with
  | nil => exact bounded_scaled negative fits _ _ n rest read
  | cons b bytes =>
      rw [floatEnd] at read
      split at read
      · exact bounded_exponentPart negative fits _ _ n rest read
      · exact bounded_scaled negative fits _ _ n rest read

theorem appendDigits_le (bytes : List UInt8) : (appendDigits significand bytes).1 ≤ significandMax := by
  induction bytes generalizing significand with
  | nil => exact fits
  | cons b bytes ih =>
      rw [appendDigits]
      dsimp only
      split
      · next more =>
          simp only [Bool.and_eq_true, decide_eq_true_eq] at more
          exact ih more.2
      · exact fits

theorem bounded_fractionPart (exponent : Int) : Bounded (fractionPart negative significand exponent) := by
  intro bytes n rest read
  have fits := appendDigits_le fits bytes
  rw [fractionPart] at read
  dsimp only at read
  split at read
  · split at read
    · cases read
    · exact bounded_floatEnd negative fits _ _ n rest read
  split at read
  · exact bounded_floatEnd negative fits _ _ n rest read
  split at read
  · cases read
  · exact bounded_floatEnd negative fits _ _ n rest read

theorem isFinite_whole : (whole negative significand).IsFinite := by
  have finite := (Decimal.atMost_ofNat (Nat.lt_succ_of_le fits)).isFinite
  rw [whole]
  split
  · exact trivial
  split
  · exact Decimal.isFinite_neg finite
  · exact trivial

theorem bounded_wholeEnd : Bounded (wholeEnd negative significand) := by
  intro bytes n rest read
  cases bytes with
  | nil =>
      obtain rfl := congrArg Prod.fst (Except.ok.inj read)
      exact isFinite_whole negative fits
  | cons b bytes =>
      rw [wholeEnd] at read
      split at read
      · exact bounded_fractionPart negative fits _ _ n rest read
      split at read
      · exact bounded_exponentPart negative fits _ _ n rest read
      · obtain rfl := congrArg Prod.fst (Except.ok.inj read)
        exact isFinite_whole negative fits

theorem bounded_longEnd : Bounded (longEnd negative significand) := by
  intro bytes n rest read
  rw [longEnd] at read
  split at read
  · exact bounded_scaled negative fits _ _ n rest read
  split at read
  · exact bounded_fractionPart negative fits _ _ n rest read
  · exact bounded_floatEnd negative fits _ _ n rest read

omit fits in
theorem bounded_number : Bounded (number negative) := by
  intro bytes n rest read
  cases bytes with
  | nil => cases read
  | cons b bytes =>
      have digit : digit b ≤ significandMax := Nat.le_trans (Nat.le_of_lt (UInt8.toNat_lt _)) (by decide)
      have fits := appendDigits_le digit bytes
      rw [number.eq_def] at read
      dsimp only at read
      split at read
      · cases read
      split at read
      · split at read
        · exact bounded_wholeEnd negative (Nat.zero_le _) _ n rest read
        split at read
        · cases read
        · exact bounded_wholeEnd negative (Nat.zero_le _) _ n rest read
      · split at read
        · exact bounded_wholeEnd negative fits _ n rest read
        split at read
        · exact bounded_longEnd negative fits _ n rest read
        · exact bounded_wholeEnd negative fits _ n rest read

end Numbers

/-! ## Documents -/

theorem Leaf.isFinite {document : Json} (leaf : Leaf document) : document.IsFinite := by
  cases leaf with
  | null => exact .null
  | bool b => exact .bool b
  | string s => exact .string s
  | number negative bytes read => exact .number _ (bounded_number negative bytes _ _ read)

theorem yields_isFinite (depth : Nat) : Yields (value depth) IsFinite := by
  induction depth with
  | zero =>
      intro bytes document rest read
      obtain leaf | ⟨left, impossible, -⟩ := value_cases read
      · exact leaf.isFinite
      · cases impossible
  | succ depth ih =>
      intro bytes document rest read
      obtain leaf | ⟨left, same, opened⟩ := value_cases read
      · exact leaf.isFinite
      obtain rfl := Nat.succ.inj same
      obtain ⟨inside, behind, documents, array, rfl⟩ | ⟨inside, behind, found, object, rfl⟩ := opened
      · exact .array documents (yields_array ih array)
      · have each := yields_object ih object
        exact .object _ fun member inside => each member (SortedMap.mem_of_mem_ofList inside)

end Reader

/-- A document that is read holds no infinity and no NaN. -/
theorem isFinite_ofBytes {bytes : List UInt8} {document : Json} (read : ofBytes bytes = .ok document) :
    document.IsFinite := by
  rw [ofBytes] at read
  split at read
  · cases read
  · next found rest here =>
    split at read
    · obtain rfl := Except.ok.inj read
      exact Reader.yields_isFinite Reader.depthMax bytes found rest here
    · cases read

end RecordMapper.Json
