import RecordMapper.Json.Printer
import RecordMapper.Json.Reader.Number
import RecordMapper.Proofs.Decimal.Digits
import RecordMapper.Proofs.Text.Utf8
/-! # Whole numbers read back

`number_toDigits`: the digits of a number that fits the significand are read as that number, in front
of anything that does not continue it. -/
set_option autoImplicit false
namespace RecordMapper.Json.Reader

open Text (encode)

/-- What follows a whole number continues it neither with digits nor as a float. -/
def EndsNumber (rest : List UInt8) : Prop :=
  ∀ b ∈ rest.head?, isDigit b = false ∧ b ≠ '.'.toUInt8 ∧ b ≠ 'e'.toUInt8 ∧ b ≠ 'E'.toUInt8

theorem isDigit_digitChar {d : Nat} (small : d < 10) :
    isDigit (Nat.digitChar d).toUInt8 = true := by
  revert d
  decide

theorem digit_digitChar {d : Nat} (small : d < 10) : digit (Nat.digitChar d).toUInt8 = d := by
  revert d
  decide

theorem exists_digitChar {c : Char} (isDigit : c.isDigit = true) :
    ∃ d, d < 10 ∧ c = Nat.digitChar d := by
  have lower : 48 ≤ c.toNat ∧ c.toNat ≤ 57 := by
    simpa [Char.isDigit, UInt32.le_iff_toNat_le] using isDigit
  have digits : ∀ d < 10, (Nat.digitChar d).toNat = 48 + d := by decide
  refine ⟨c.toNat - 48, by omega, Char.toNat_inj.mp ?_⟩
  rw [digits _ (by omega)]
  omega

theorem le_ofDigitChars (digits : List Char) (n : Nat) : n ≤ Nat.ofDigitChars 10 digits n := by
  induction digits generalizing n with
  | nil => exact Nat.le_of_eq Nat.ofDigitChars_nil.symm
  | cons c rest ih =>
      have there := ih (10 * n + (c.toNat - '0'.toNat))
      rw [Nat.ofDigitChars_cons]
      omega

theorem encode_digitChar (d : Nat) (small : d < 10) (cs : List Char) :
    encode (Nat.digitChar d :: cs) = (Nat.digitChar d).toUInt8 :: encode cs := by
  refine Text.encode_cons_ascii ?_ cs
  revert d
  decide

theorem appendDigits_digits (digits : List Char) (all : ∀ c ∈ digits, c.isDigit = true) (n : Nat)
    (fits : Nat.ofDigitChars 10 digits n ≤ significandMax) {rest : List UInt8}
    (ends : EndsNumber rest) :
    appendDigits n (encode digits ++ rest) =
      (Nat.ofDigitChars 10 digits n, digits.length, rest) := by
  induction digits generalizing n with
  | nil =>
      rw [Text.encode_nil, List.nil_append, Nat.ofDigitChars_nil]
      cases rest with
      | nil => rfl
      | cons b rest =>
          have noDigit := (ends b rfl).1
          simp [appendDigits, noDigit]
  | cons c cs ih =>
      obtain ⟨d, small, rfl⟩ := exists_digitChar (all c (List.mem_cons_self ..))
      rw [Nat.ofDigitChars_cons_digitChar_of_lt_ten small] at fits ⊢
      have there := ih (fun other member => all other (List.mem_cons_of_mem _ member)) _ fits
      have next : n * 10 + d ≤ significandMax := by
        have least := le_ofDigitChars cs (10 * n + d)
        omega
      rw [Nat.mul_comm] at there ⊢
      rw [encode_digitChar d small, List.cons_append, appendDigits, isDigit_digitChar small,
        digit_digitChar small]
      simp [next, there]

def whole (negative : Bool) (significand : Nat) : Number :=
  if !negative then .int significand
  else if significand = 0 || 0x8000000000000000 < significand then .float (-Float.ofNat significand)
  else .int (-(significand : Int))

theorem wholeEnd_ends (negative : Bool) (significand : Nat) {rest : List UInt8}
    (ends : EndsNumber rest) :
    wholeEnd negative significand rest = .ok (whole negative significand, rest) := by
  cases rest with
  | nil => rfl
  | cons b rest =>
      obtain ⟨-, noPoint, noExponent, noExponent'⟩ := ends b rfl
      simp only [wholeEnd, noPoint, noExponent, noExponent', decide_false, Bool.or_false,
        Bool.false_eq_true, if_false]
      rfl

theorem number_toDigits (negative : Bool) {n : Nat} (fits : n ≤ significandMax)
    {rest : List UInt8} (ends : EndsNumber rest) :
    number negative (encode (Nat.toDigits 10 n) ++ rest) = .ok (whole negative n, rest) := by
  have finish := wholeEnd_ends negative n ends
  rcases Nat.eq_zero_or_pos n with rfl | positive
  · have zero : encode (Nat.toDigits 10 0) ++ rest = '0'.toUInt8 :: rest := rfl
    have lead : isDigit '0'.toUInt8 = true := by decide
    have none : digit '0'.toUInt8 = 0 := by decide
    rw [zero]
    cases rest with
    | nil => simp only [number, lead, none, Bool.not_true, Bool.false_eq_true, if_false, if_true, finish]
    | cons b rest =>
        have noDigit := (ends b rfl).1
        simp only [number, lead, none, noDigit, Bool.not_true, Bool.false_eq_true, if_false,
          if_true, finish]
  · obtain ⟨d, digits, lead, small, shape⟩ := Decimal.toDigits_lead positive
    have all : ∀ c ∈ digits, c.isDigit = true := by
      intro c member
      refine Decimal.isDigit_of_mem_toDigits (n := n) ?_
      rw [shape]
      exact List.mem_cons_of_mem _ member
    have value : Nat.ofDigitChars 10 digits d = n := by
      have read := Nat.ofDigitChars_ten_toDigits (n := n)
      rw [shape, Nat.ofDigitChars_cons_digitChar_of_lt_ten small, Nat.mul_zero, Nat.zero_add] at read
      exact read
    have appended := appendDigits_digits digits all d (by rw [value]; exact fits) ends
    rw [value] at appended
    rw [shape, encode_digitChar d small, List.cons_append]
    cases rest with
    | nil =>
        simp only [number, isDigit_digitChar small, digit_digitChar small, appended, Bool.not_true,
          Bool.false_eq_true, if_false, Nat.ne_of_gt lead, finish]
    | cons b rest =>
        have noDigit := (ends b rfl).1
        simp only [number, isDigit_digitChar small, digit_digitChar small, appended, noDigit,
          Bool.not_true, Bool.false_eq_true, if_false, Nat.ne_of_gt lead, finish]

theorem text_natural (n : Nat) : (Number.int n).text.toList = Nat.toDigits 10 n :=
  Nat.toList_repr

theorem text_negative (n : Nat) :
    (Number.int (Int.negSucc n)).text.toList = '-' :: Nat.toDigits 10 (n + 1) :=
  Decimal.toList_negSucc n

theorem whole_natural (n : Nat) : whole false n = .int n := rfl

theorem whole_negative {n : Nat} (fits : n < 0x8000000000000000) :
    whole true (n + 1) = .int (Int.negSucc n) := by
  have small : decide (0x8000000000000000 < n + 1) = false := decide_eq_false (by omega)
  have code : -((n + 1 : Nat) : Int) = Int.negSucc n := rfl
  rw [whole, small, code]
  rfl

end RecordMapper.Json.Reader
