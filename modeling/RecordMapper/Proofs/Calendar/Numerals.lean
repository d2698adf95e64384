import RecordMapper.Calendar.Printer
import RecordMapper.Calendar.Reader
import RecordMapper.Proofs.Decimal.Digits
/-! # Numbers in dates and times

Numbers are written with zeros in front and read up to a number of digits.  What is written is read
back in front of anything that is no digit, and also in front of digits if as many were read as
may be. -/
set_option autoImplicit false
namespace RecordMapper.Calendar

open Decimal (ofDigits)

def NoDigit (rest : List Char) : Prop := ∀ c ∈ rest.head?, c.isDigit = false

theorem noDigit_cons {c : Char} (rest : List Char) (other : c.isDigit = false) :
    NoDigit (c :: rest) := by
  intro d member
  obtain rfl : c = d := by simpa using member
  exact other

theorem takeWhile_noDigit {rest : List Char} (next : NoDigit rest) :
    rest.takeWhile Char.isDigit = [] := by
  cases rest with
  | nil => rfl
  | cons c rest => simp [next c rfl]

/-! ## Written numbers -/

theorem toList_padded (width n : Nat) : (padded width n).toList =
    List.replicate (width - (Nat.toDigits 10 n).length) '0' ++ Nat.toDigits 10 n := by
  simp [padded]

theorem isDigit_padded (width n : Nat) : ∀ c ∈ (padded width n).toList, c.isDigit = true := by
  intro c member
  rw [toList_padded, List.mem_append] at member
  rcases member with zero | digit
  · obtain rfl := List.eq_of_mem_replicate zero
    decide
  · exact Decimal.isDigit_of_mem_toDigits digit

theorem ofDigits_padded (width n : Nat) : ofDigits (padded width n).toList = n := by
  rw [toList_padded, Decimal.ofDigits_zeros_append, Decimal.ofDigits_toDigits]

theorem padded_ne_nil (width n : Nat) : (padded width n).toList ≠ [] := by
  rw [toList_padded]
  intro empty
  have digits := (List.append_eq_nil_iff.mp empty).2
  have positive : 0 < (Nat.toDigits 10 n).length := Nat.length_toDigits_pos
  rw [digits] at positive
  exact Nat.lt_irrefl 0 positive

theorem length_padded {width n : Nat} (fits : (Nat.toDigits 10 n).length ≤ width) :
    (padded width n).toList.length = width := by
  rw [toList_padded, List.length_append, List.length_replicate]
  omega

theorem length_padded_two {n : Nat} (fits : n < 100) : (padded 2 n).toList.length = 2 :=
  length_padded ((Nat.length_toDigits_le_iff (by decide) (by decide)).mpr fits)

theorem length_padded_four {n : Nat} (fits : n < 10000) : (padded 4 n).toList.length = 4 :=
  length_padded ((Nat.length_toDigits_le_iff (by decide) (by decide)).mpr fits)

theorem length_padded_six {n : Nat} (fits : n < 1000000) : (padded 6 n).toList.length = 6 :=
  length_padded ((Nat.length_toDigits_le_iff (by decide) (by decide)).mpr fits)

/-! ## Numbers read -/

theorem digits_take {most : Nat} (digits rest : List Char)
    (all : ∀ c ∈ digits, c.isDigit = true) (short : digits.length ≤ most)
    (next : digits.length = most ∨ NoDigit rest) :
    ((digits ++ rest).take most).takeWhile Char.isDigit = digits := by
  rw [List.take_append, List.take_of_length_le short, List.takeWhile_append_of_pos all]
  have stop : (rest.take (most - digits.length)).takeWhile Char.isDigit = [] := by
    rcases next with full | other
    · rw [full, Nat.sub_self, List.take_zero]
      rfl
    · refine takeWhile_noDigit fun c member => other c ?_
      rw [List.head?_take] at member
      split at member
      · simp at member
      · exact member
  rw [stop, List.append_nil]

theorem number?_append {most : Nat} (digits rest : List Char)
    (all : ∀ c ∈ digits, c.isDigit = true) (some' : digits ≠ []) (short : digits.length ≤ most)
    (next : digits.length = most ∨ NoDigit rest) :
    number? most (digits ++ rest) = some (ofDigits digits, rest) := by
  have present : digits.isEmpty = false := by simpa using some'
  simp [number?, digits_take digits rest all short next, present]

theorem fixed?_append {width : Nat} (digits rest : List Char)
    (all : ∀ c ∈ digits, c.isDigit = true) (length : digits.length = width) :
    fixed? width (digits ++ rest) = some (ofDigits digits, rest) := by
  subst length
  have taken := digits_take digits rest all (Nat.le_refl _) (Or.inl rfl)
  simp only [fixed?, taken, if_true, List.drop_left]

theorem fixed?_cons_noDigit {width : Nat} (positive : width ≠ 0) {c : Char} (rest : List Char)
    (other : c.isDigit = false) : fixed? width (c :: rest) = none := by
  obtain ⟨less, rfl⟩ := Nat.exists_eq_succ_of_ne_zero positive
  simp [fixed?, other]

theorem isBlank_of_isDigit {c : Char} (digit : c.isDigit = true) : Text.isBlank c = false := by
  simp only [Char.isDigit, Bool.and_eq_true, decide_eq_true_eq] at digit
  have low : 48 ≤ c.toNat := digit.1
  have high : c.toNat ≤ 57 := digit.2
  simp only [Text.isBlank, Text.blankRanges, List.any_cons, List.any_nil, Bool.or_false,
    Bool.or_eq_false_iff, Bool.and_eq_false_iff, decide_eq_false_iff_not]
  omega

theorem dropBlank_digits (digits rest : List Char) (all : ∀ c ∈ digits, c.isDigit = true)
    (some' : digits ≠ []) : Text.dropBlank (digits ++ rest) = digits ++ rest := by
  obtain ⟨c, tail, rfl⟩ := List.exists_cons_of_ne_nil some'
  have digit : c.isDigit = true := all c (List.mem_cons_self ..)
  rw [Text.dropBlank, List.cons_append, List.dropWhile_cons_of_neg]
  simp [isBlank_of_isDigit digit]

theorem part?_padded {n : Nat} (fits : n < 100) (rest : List Char) :
    part? ((padded 2 n).toList ++ rest) = some (n, rest) := by
  have all := isDigit_padded 2 n
  have length := length_padded_two fits
  rw [part?, dropBlank_digits _ _ all (padded_ne_nil 2 n),
    number?_append _ _ all (padded_ne_nil 2 n) (Nat.le_of_eq length) (Or.inl length),
    ofDigits_padded]

theorem fixed?_padded_two {n : Nat} (fits : n < 100) (rest : List Char) :
    fixed? 2 ((padded 2 n).toList ++ rest) = some (n, rest) := by
  rw [fixed?_append _ _ (isDigit_padded 2 n) (length_padded_two fits), ofDigits_padded]

/-- Of a fraction the digits up to the ninth count. -/
theorem fraction?_digits {digits rest : List Char} (all : ∀ c ∈ digits, c.isDigit = true)
    (some' : digits ≠ []) (next : NoDigit rest) :
    fraction? ('.' :: (digits ++ rest)) =
      some (ofDigits digits * 10 ^ 9 / 10 ^ digits.length, rest) := by
  have split : Decimal.splitDigits (digits ++ rest) = (digits, rest) :=
    Decimal.splitDigits_append all next
  have present : digits.isEmpty = false := by simpa using some'
  simp only [fraction?, split, present, Decimal.ofDigits_take 9 all, Bool.false_eq_true, if_false]

theorem fraction?_padded {n : Nat} (fits : n < 1000000) :
    fraction? ('.' :: (padded 6 n).toList) = some (n * 1000, []) := by
  have ended : NoDigit [] := by simp [NoDigit]
  have read := fraction?_digits (isDigit_padded 6 n) (padded_ne_nil 6 n) ended
  rw [List.append_nil, ofDigits_padded, length_padded_six fits] at read
  rw [read]
  congr 2
  omega

end RecordMapper.Calendar
