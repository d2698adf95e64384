import Mathlib.Algebra.Group.Nat.Defs
import RecordMapper.Decimal.Literal
/-! # Digits of whole numbers

The digits of a negative number, and reading back the decimal digits of a number, with any number of
zeros in front. -/
set_option autoImplicit false
namespace RecordMapper.Decimal

theorem toList_negSucc (n : Nat) :
    (toString (Int.negSucc n)).toList = '-' :: Nat.toDigits 10 (n + 1) := by
  show ("-" ++ (n + 1).repr).toList = _
  rw [String.toList_append, Nat.toList_repr]
  rfl

theorem ofDigits_eq_ofDigitChars (digits : List Char) :
    ofDigits digits = Nat.ofDigitChars 10 digits 0 :=
  Nat.ofDigitChars_eq_foldl.symm

theorem ofDigits_toDigits (n : Nat) : ofDigits (Nat.toDigits 10 n) = n := by
  rw [ofDigits_eq_ofDigitChars, Nat.ofDigitChars_ten_toDigits]

theorem ofDigits_zeros_append (zeros : Nat) (digits : List Char) :
    ofDigits (List.replicate zeros '0' ++ digits) = ofDigits digits := by
  simp only [ofDigits_eq_ofDigitChars, Nat.ofDigitChars_append, Nat.ofDigitChars_replicate_zero,
    Nat.mul_zero]

theorem ofDigits_append (front back : List Char) :
    ofDigits (front ++ back) = ofDigits front * 10 ^ back.length + ofDigits back := by
  simp only [ofDigits_eq_ofDigitChars, Nat.ofDigitChars_append]
  rw [Nat.ofDigitChars_eq_ofDigitChars_zero, Nat.mul_comm]

theorem ofDigits_append_zeros (digits : List Char) (zeros : Nat) :
    ofDigits (digits ++ List.replicate zeros '0') = ofDigits digits * 10 ^ zeros := by
  simp only [ofDigits_eq_ofDigitChars, Nat.ofDigitChars_append, Nat.ofDigitChars_replicate_zero]
  exact Nat.mul_comm ..

theorem code_of_isDigit {c : Char} (digit : c.isDigit = true) :
    c.toNat = 48 + digitValue c ∧ digitValue c < 10 := by
  simp only [Char.isDigit, Bool.and_eq_true, decide_eq_true_eq] at digit
  have low : 48 ≤ c.toNat := digit.1
  have high : c.toNat ≤ 57 := digit.2
  have zero : '0'.toNat = 48 := rfl
  rw [digitValue, zero]
  omega

theorem ofDigits_lt {digits : List Char} (all : ∀ c ∈ digits, c.isDigit = true) :
    ofDigits digits < 10 ^ digits.length := by
  induction digits with
  | nil => decide
  | cons c rest ih =>
      have later := ih fun d member => all d (List.mem_cons_of_mem c member)
      have digit := (code_of_isDigit (all c (List.mem_cons_self ..))).2
      have lead : ofDigits [c] = digitValue c := by simp [ofDigits]
      have most := Nat.mul_le_mul_right (10 ^ rest.length) (Nat.le_of_lt_succ digit)
      rw [show c :: rest = [c] ++ rest from rfl, ofDigits_append, lead, List.length_append,
        List.length_singleton, Nat.pow_add]
      omega

/-- The first digits behind a point, filled up with zeros, count the units of their place that the
fraction has. -/
theorem ofDigits_take (places : Nat) {digits : List Char} (all : ∀ c ∈ digits, c.isDigit = true) :
    ofDigits ((digits ++ List.replicate places '0').take places) =
      ofDigits digits * 10 ^ places / 10 ^ digits.length := by
  by_cases short : digits.length ≤ places
  · have power : 10 ^ places = 10 ^ (places - digits.length) * 10 ^ digits.length := by
      rw [← Nat.pow_add, Nat.sub_add_cancel short]
    rw [List.take_append, List.take_of_length_le short, List.take_replicate,
      Nat.min_eq_left (Nat.sub_le ..), ofDigits_append_zeros, power, ← Nat.mul_assoc,
      Nat.mul_div_cancel _ (Nat.pow_pos (by decide))]
  · have long : places ≤ digits.length := Nat.le_of_not_le short
    have power : 10 ^ digits.length = 10 ^ (digits.length - places) * 10 ^ places := by
      rw [← Nat.pow_add, Nat.sub_add_cancel long]
    have rest := ofDigits_lt fun c member => all c (List.mem_of_mem_drop (i := places) member)
    have whole := ofDigits_append (digits.take places) (digits.drop places)
    rw [List.take_append_drop] at whole
    rw [List.length_drop] at rest whole
    rw [List.take_append_of_le_length long, power, Nat.mul_div_mul_right _ _ (Nat.pow_pos (by decide)),
      whole, Nat.mul_comm, Nat.mul_add_div (Nat.pow_pos (by decide)), Nat.div_eq_of_lt rest,
      Nat.add_zero]

theorem splitDigits_append {digits rest : List Char} (all : ∀ c ∈ digits, c.isDigit = true)
    (next : ∀ c ∈ rest.head?, c.isDigit = false) : splitDigits (digits ++ rest) = (digits, rest) := by
  have stop : rest.takeWhile Char.isDigit = [] ∧ rest.dropWhile Char.isDigit = rest := by
    cases rest with
    | nil => exact ⟨rfl, rfl⟩
    | cons c rest => simp [next c rfl]
  rw [splitDigits, List.takeWhile_append_of_pos all, List.dropWhile_append_of_pos all, stop.1, stop.2,
    List.append_nil]

theorem isDigit_of_mem_toDigits {n : Nat} {c : Char} (member : c ∈ Nat.toDigits 10 n) :
    c.isDigit = true :=
  Nat.isDigit_of_mem_toDigits (by decide) (by decide) member

theorem toDigits_lead {n : Nat} (positive : 0 < n) :
    ∃ d rest, 0 < d ∧ d < 10 ∧ Nat.toDigits 10 n = Nat.digitChar d :: rest := by
  induction n using Nat.strongRecOn with
  | ind n ih =>
      by_cases small : n < 10
      · exact ⟨n, [], positive, small, Nat.toDigits_of_lt_base small⟩
      · obtain ⟨d, rest, lead, digit, front⟩ := ih (n / 10) (by omega) (by omega)
        refine ⟨d, rest ++ [Nat.digitChar (n % 10)], lead, digit, ?_⟩
        rw [Nat.toDigits_of_base_le (by decide) (by omega), front]
        rfl

end RecordMapper.Decimal
