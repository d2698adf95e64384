import RecordMapper.Conversion
import RecordMapper.Proofs.Decimal.Numeral
/-! # Conversion to integers

What a text or a float stands for is converted to the nearest integer that 64 bits hold, without a word
if it is another one.  It is refused only where it is so large that no double holds it either
(`integer_conversion`). -/
set_option autoImplicit false
namespace RecordMapper

open Calendar (Offset)
open Decimal (Binary Numeral Rounded Spelled number overflow towardZero truncated)
open Float.Model.UnpackedFloat (Sign)

/-! ## The nearest integer of 64 bits -/

theorem toInt_saturated (n : Int) : (saturated n).toInt = max (-2 ^ 63) (min n (2 ^ 63 - 1)) := by
  have least : Int64.minValue.toInt = -2 ^ 63 := rfl
  have most : Int64.maxValue.toInt = 2 ^ 63 - 1 := rfl
  rw [saturated, Int64.ofIntClamp]
  split
  · split
    · rw [Int64.toInt_ofIntLE]
      omega
    · omega
  · omega

theorem saturated_of_le {n : Int} (low : n ≤ -2 ^ 63) : saturated n = Int64.minValue := by
  refine Int64.toInt_inj.mp ((toInt_saturated n).trans ?_)
  show _ = -2 ^ 63
  omega

theorem saturated_of_ge {n : Int} (high : 2 ^ 63 ≤ n) : saturated n = Int64.maxValue := by
  have most : Int64.maxValue.toInt = 2 ^ 63 - 1 := rfl
  refine Int64.toInt_inj.mp ((toInt_saturated n).trans ?_)
  rw [most]
  omega

theorem saturated_of_fits {n : Int} (fits : -2 ^ 63 ≤ n ∧ n < 2 ^ 63) : saturated n = Int64.ofInt n := by
  refine Int64.toInt_inj.mp ((toInt_saturated n).trans ?_)
  rw [Int64.toInt_ofInt_of_le fits.1 fits.2]
  omega

/-- A double that a large integer was rounded to lies beyond 64 bits on the same side, or is infinite. -/
theorem wholeOf?_rounded {side : Sign} {n : Nat} {x : Float} (large : 2 ^ 63 ≤ n)
    (rounded : Rounded side n x.toModel.unpack) :
    wholeOf? x = if n < overflow then some (saturated (side.apply n)) else none := by
  have shape := Decimal.parts x
  generalize unpacked : x.toModel.unpack = u at rounded shape
  have finite : x.isFinite = u.isFinite := congrArg _ unpacked
  rw [wholeOf?, finite]
  cases rounded with
  | infinity most =>
      rw [if_neg (Nat.not_lt.mpr most)]
      rfl
  | finite mantissa exponent positive less low high least =>
      cases shape with
      | finite _ _ _ binary =>
          obtain ⟨rfl, rfl⟩ := binary
          have beyond : 2 ^ 63 ≤ (Binary.ofFloat x).whole := by
            have scale : 2 ^ 11 ≤ 2 ^ (Binary.ofFloat x).exponent.toNat :=
              Nat.pow_le_pow_right (by decide) (by omega)
            have none : (-(Binary.ofFloat x).exponent).toNat = 0 := by omega
            rw [Binary.whole, none, Nat.shiftRight_zero, Nat.shiftLeft_eq]
            exact le_of_eq_of_le (by decide) (Nat.mul_le_mul low scale)
          rw [if_pos less]
          refine congrArg some ?_
          cases signed : Decimal.sign x with
          | negative =>
              rw [truncated, if_pos (Decimal.isNegative_iff.mpr signed)]
              rw [saturated_of_le (by omega), saturated_of_le (by simp only [Sign.apply]; omega)]
          | positive =>
              have not : ¬ Decimal.isNegative x = true := by
                rw [Decimal.isNegative_iff, signed]
                intro same
                cases same
              rw [truncated, if_neg not]
              rw [saturated_of_ge (by omega), saturated_of_ge (by simp only [Sign.apply]; omega)]

/-! ## Texts and floats -/

/-- An integer that is spelled out in text, or the integer part of a finite float. -/
inductive Value.Denotes : Value → Int → Prop
  | text {s : String} {n : Int} (spelled : Spelled s n) : Value.Denotes (.str s) n
  | float {x : Float} (finite : x.isFinite = true) :
      Value.Denotes (.float x) (towardZero (number x))

namespace Value

theorem toInt_text {s : String} {n : Int} (spelled : Spelled s n) :
    (str s).toInt = if n.natAbs < overflow then .ok (saturated n)
      else .error ⟨Text.trim s, .int, .notNumber⟩ := by
  obtain ⟨core, trimmed, numeral⟩ := spelled.trim
  rw [toInt]
  dsimp only
  rw [trimmed, numeral.int64?]
  by_cases fits : -2 ^ 63 ≤ n ∧ n < 2 ^ 63
  · have less : n.natAbs < overflow := lt_of_le_of_lt (by omega) Decimal.two_pow_lt_overflow
    rw [if_pos fits, if_pos less, saturated_of_fits fits]
  · have large : 2 ^ 63 ≤ n.natAbs := by omega
    obtain ⟨x, side, read, is, rounded⟩ := numeral.float large
    rw [if_neg fits, read]
    show ((wholeOf? x).elim _ _ : Except ConversionFault Int64) = _
    rw [wholeOf?_rounded large rounded, ← is]
    by_cases less : n.natAbs < overflow
    · rw [if_pos less, if_pos less]
      rfl
    · rw [if_neg less, if_neg less]
      rfl

theorem toInt_float {x : Float} (finite : x.isFinite = true) :
    (float x).toInt = .ok (saturated (towardZero (number x))) := by
  rw [toInt]
  dsimp only
  rw [wholeOf?, if_pos finite, Decimal.truncated_eq finite]
  rfl

theorem Denotes.toInt {value : Value} {n : Int} (denotes : value.Denotes n) :
    value.toInt = if n.natAbs < overflow then .ok (saturated n)
      else .error ⟨Text.trim value.text, .int, .notNumber⟩ := by
  cases denotes with
  | text spelled => exact toInt_text spelled
  | float finite =>
      have less := Decimal.natAbs_truncated_lt finite
      rw [Decimal.truncated_eq finite] at less
      rw [toInt_float finite, if_pos less]

end Value

/-- In a field for integers the value comes to the integer `n` or to nothing, whether it is written or
read. -/
structure Value.ConvertsExactly (value : Value) (n : Int) (zone : Offset) : Prop where
  written : ∀ cell, value.toStorage .int zone = .ok cell → ∃ k : Int64, cell = .int k ∧ k.toInt = n
  read : ∀ cell : Cell, cell.toValue = value → ∀ result, cell.fromStorage .int zone = .ok result →
    ∃ k : Int64, result = .int k ∧ k.toInt = n

namespace Value
variable {value : Value} {n : Int}

theorem Denotes.isNull (denotes : value.Denotes n) : value.isNull = false := by
  cases denotes <;> rfl

theorem Denotes.toStorage (denotes : value.Denotes n) (zone : Offset) :
    value.toStorage .int zone = if n.natAbs < overflow then .ok (.int (saturated n))
      else .error ⟨Text.trim value.text, .int, .notNumber⟩ := by
  have converted : value.toStorage .int zone = value.toInt.map .int := by
    rw [Value.toStorage, denotes.isNull]
    rfl
  rw [converted, denotes.toInt]
  split <;> rfl

theorem Denotes.fromStorage (denotes : value.Denotes n) {cell : Cell} (holds : cell.toValue = value)
    (zone : Offset) :
    cell.fromStorage .int zone = if n.natAbs < overflow then .ok (.int (saturated n))
      else .error ⟨Text.trim value.text, .int, .notNumber⟩ := by
  have present : cell.isNull = false := by
    cases cell with
    | null => rw [← holds] at denotes; cases denotes
    | int | float | str | binary => rfl
  have converted : cell.fromStorage .int zone = value.toInt.map .int := by
    rw [Cell.fromStorage, present, holds]
    rfl
  rw [converted, denotes.toInt]
  split <;> rfl

/-- What is converted is the integer itself only if it fits. -/
theorem Denotes.convertsExactly_iff (denotes : value.Denotes n) (zone : Offset) :
    value.ConvertsExactly n zone ↔ (-2 ^ 63 ≤ n ∧ n < 2 ^ 63) ∨ overflow ≤ n.natAbs := by
  have stored := denotes.toStorage zone
  by_cases less : n.natAbs < overflow
  · rw [if_pos less] at stored
    constructor
    · intro exact
      obtain ⟨k, same, is⟩ := exact.written _ stored
      obtain rfl := Cell.int.inj same
      rw [toInt_saturated] at is
      omega
    · intro small
      have is : (saturated n).toInt = n := by
        rw [toInt_saturated]
        omega
      constructor
      · intro cell done
        rw [stored] at done
        exact ⟨_, (Except.ok.inj done).symm, is⟩
      · intro cell holds result done
        rw [denotes.fromStorage holds, if_pos less] at done
        exact ⟨_, (Except.ok.inj done).symm, is⟩
  · rw [if_neg less] at stored
    refine iff_of_true ⟨fun cell done => ?_, fun cell holds result done => ?_⟩
      (.inr (Nat.le_of_not_lt less))
    · rw [stored] at done
      cases done
    · rw [denotes.fromStorage holds, if_neg less] at done
      cases done

end Value

/-- An integer in a text of any length, and the integer part of a finite float, is converted to the
nearest integer of 64 bits, in both directions, unless it is `overflow` or more in size: then it is
refused.  So it comes to itself or to nothing if and only if it fits in 64 bits or is as large as
that. -/
theorem integer_conversion {value : Value} {n : Int} (denotes : value.Denotes n) (zone : Offset) :
    (n.natAbs < overflow → ∃ k : Int64, k.toInt = max (-2 ^ 63) (min n (2 ^ 63 - 1)) ∧
      value.toStorage .int zone = .ok (.int k) ∧
      ∀ cell : Cell, cell.toValue = value → cell.fromStorage .int zone = .ok (.int k)) ∧
    (overflow ≤ n.natAbs → ∃ fault : ConversionFault,
      fault = ⟨Text.trim value.text, .int, .notNumber⟩ ∧
      value.toStorage .int zone = .error fault ∧
      ∀ cell : Cell, cell.toValue = value → cell.fromStorage .int zone = .error fault) ∧
    (value.ConvertsExactly n zone ↔ (-2 ^ 63 ≤ n ∧ n < 2 ^ 63) ∨ overflow ≤ n.natAbs) := by
  refine ⟨fun less => ?_, fun most => ?_, denotes.convertsExactly_iff zone⟩
  · refine ⟨saturated n, toInt_saturated n, ?_, fun cell holds => ?_⟩
    · rw [denotes.toStorage, if_pos less]
    · rw [denotes.fromStorage holds, if_pos less]
  · have large := Nat.not_lt.mpr most
    refine ⟨_, rfl, ?_, fun cell holds => ?_⟩
    · rw [denotes.toStorage, if_neg large]
    · rw [denotes.fromStorage holds, if_neg large]

theorem spelled_beyond : Spelled "9223372036854775808" (2 ^ 63) :=
  @Spelled.intro [] "9223372036854775808".toList [] (2 ^ 63) nofun
    (.bare "9223372036854775808".toList (by decide) (List.all_eq_true.mp rfl)) nofun

/-- The first integer beyond 64 bits is stored as another one. -/
theorem converts_beyond_inexactly :
    (Value.str "9223372036854775808").Denotes (2 ^ 63) ∧
      (Value.str "9223372036854775808").toStorage .int .utc = .ok (.int Int64.maxValue) ∧
      ¬ (Value.str "9223372036854775808").ConvertsExactly (2 ^ 63) .utc := by
  have stored : (Value.str "9223372036854775808").toStorage .int .utc = .ok (.int Int64.maxValue) := by
    rfl
  refine ⟨.text spelled_beyond, stored, fun exact => ?_⟩
  obtain ⟨k, same, is⟩ := exact.written _ stored
  obtain rfl := Cell.int.inj same
  cases is

theorem spelled_least : Spelled " -9223372036854775808\n" (-2 ^ 63) :=
  @Spelled.intro [' '] ('-' :: "9223372036854775808".toList) ['\n'] (-2 ^ 63)
    (List.forall_mem_singleton.mpr rfl)
    (.minus "9223372036854775808".toList (by decide) (List.all_eq_true.mp rfl))
    (List.forall_mem_singleton.mpr rfl)

theorem denotes_least : (Value.float (Float.ofBits 0xC3E0000000000000)).Denotes (-2 ^ 63) := by
  have finite : (Float.ofBits 0xC3E0000000000000).isFinite = true := by decide +kernel
  have least : truncated (Float.ofBits 0xC3E0000000000000) = -2 ^ 63 := by decide +kernel
  rw [Decimal.truncated_eq finite] at least
  exact least ▸ .float finite

theorem integer_conversion_least :
    (Value.str " -9223372036854775808\n").Denotes (-2 ^ 63) ∧
      (Value.str " -9223372036854775808\n").ConvertsExactly (-2 ^ 63) .utc ∧
      (Value.float (Float.ofBits 0xC3E0000000000000)).Denotes (-2 ^ 63) ∧
      (Value.float (Float.ofBits 0xC3E0000000000000)).ConvertsExactly (-2 ^ 63) .utc := by
  have text := Value.Denotes.text spelled_least
  obtain ⟨-, -, exactText⟩ := integer_conversion text .utc
  obtain ⟨-, -, exactFloat⟩ := integer_conversion denotes_least .utc
  exact ⟨text, exactText.mpr (.inl (by decide)), denotes_least, exactFloat.mpr (.inl (by decide))⟩

end RecordMapper
