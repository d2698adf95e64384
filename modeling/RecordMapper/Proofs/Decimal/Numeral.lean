import Mathlib.Data.List.TakeWhile
import RecordMapper.Proofs.Calendar.Numerals
import RecordMapper.Proofs.Decimal.Rounding
import RecordMapper.Proofs.Text.Blank
/-! # Integers in text

A text that spells an integer, of any length and with white space around it (`Spelled`), is read as that
integer if it fits in 64 bits (`Numeral.int64?`).  As a floating-point literal it is the double nearest
to it (`Numeral.float`). -/
set_option autoImplicit false
namespace RecordMapper.Decimal

open Float.Model.UnpackedFloat (Sign)

/-- Digits with a sign or without, and the integer that they denote. -/
inductive Numeral : List Char → Int → Prop
  | bare (digits : List Char) (nonempty : digits ≠ []) (all : ∀ c ∈ digits, c.isDigit = true) :
      Numeral digits (Nat.ofDigitChars 10 digits 0)
  | plus (digits : List Char) (nonempty : digits ≠ []) (all : ∀ c ∈ digits, c.isDigit = true) :
      Numeral ('+' :: digits) (Nat.ofDigitChars 10 digits 0)
  | minus (digits : List Char) (nonempty : digits ≠ []) (all : ∀ c ∈ digits, c.isDigit = true) :
      Numeral ('-' :: digits) (-(Nat.ofDigitChars 10 digits 0 : Int))

inductive Spelled : String → Int → Prop
  | intro {front core back : List Char} {n : Int} (blankFront : ∀ c ∈ front, Text.isBlank c = true)
      (numeral : Numeral core n) (blankBack : ∀ c ∈ back, Text.isBlank c = true) :
      Spelled (String.ofList (front ++ core ++ back)) n

theorem splitSign_digits {digits : List Char} (all : ∀ c ∈ digits, c.isDigit = true) :
    splitSign digits = (false, digits) := by
  unfold splitSign
  split
  · cases all '-' (List.mem_cons_self ..)
  · cases all '+' (List.mem_cons_self ..)
  · rfl

theorem Numeral.split {core : List Char} {n : Int} (numeral : Numeral core n) :
    ∃ negative digits, splitSign core = (negative, digits) ∧ digits ≠ [] ∧
      (∀ c ∈ digits, c.isDigit = true) ∧
      n = if negative then -(ofDigits digits : Int) else ofDigits digits := by
  cases numeral with
  | bare _ nonempty all =>
      exact ⟨false, core, splitSign_digits all, nonempty, all, by rw [ofDigits_eq_ofDigitChars]; rfl⟩
  | plus digits nonempty all =>
      exact ⟨false, digits, rfl, nonempty, all, by rw [ofDigits_eq_ofDigitChars]; rfl⟩
  | minus digits nonempty all =>
      exact ⟨true, digits, rfl, nonempty, all, by rw [ofDigits_eq_ofDigitChars]; rfl⟩

theorem trimmed_digits {digits : List Char}
    (all : ∀ c ∈ digits, c.isDigit = true) (signs : List Char)
    (plain : ∀ c ∈ signs, Text.isBlank c = false) : Text.Trimmed (signs ++ digits) := by
  have each : ∀ c ∈ signs ++ digits, Text.isBlank c = false := by
    intro c member
    rcases List.mem_append.mp member with sign | digit
    · exact plain c sign
    · exact Calendar.isBlank_of_isDigit (all c digit)
  exact ⟨fun c first => each c (List.mem_of_mem_head? first),
    fun c last => each c (List.mem_of_mem_getLast? last)⟩

theorem Numeral.trimmed {core : List Char} {n : Int} (numeral : Numeral core n) :
    Text.Trimmed core ∧ core ≠ [] := by
  cases numeral with
  | bare _ nonempty all => exact ⟨trimmed_digits all [] (by simp), nonempty⟩
  | plus digits nonempty all =>
      exact ⟨trimmed_digits all ['+'] (List.forall_mem_singleton.mpr rfl), by simp⟩
  | minus digits nonempty all =>
      exact ⟨trimmed_digits all ['-'] (List.forall_mem_singleton.mpr rfl), by simp⟩

theorem Spelled.trim {s : String} {n : Int} (spelled : Spelled s n) :
    ∃ core, Text.trim s = String.ofList core ∧ Numeral core n := by
  cases spelled with
  | @intro front core back _ blankFront numeral blankBack =>
      obtain ⟨trimmed, nonempty⟩ := numeral.trimmed
      refine ⟨core, ?_, numeral⟩
      rw [Text.trim, String.toList_ofList,
        Text.trimChars_surrounded trimmed nonempty blankFront blankBack]

/-! ## Reading them -/

theorem Numeral.integer? {core : List Char} {n : Int} (numeral : Numeral core n) :
    integer? core = some n := by
  obtain ⟨negative, digits, split, nonempty, all, rfl⟩ := numeral.split
  have none : digits.isEmpty = false := by simpa using nonempty
  have digital : digits.all Char.isDigit = true := List.all_eq_true.mpr all
  rw [Decimal.integer?, split]
  simp [none, digital]

theorem Numeral.int64? {core : List Char} {n : Int} (numeral : Numeral core n) :
    int64? (String.ofList core) =
      if -2 ^ 63 ≤ n ∧ n < 2 ^ 63 then some (Int64.ofInt n) else none := by
  have least : Int64.minValue.toInt = -2 ^ 63 := rfl
  have most : Int64.maxValue.toInt = 2 ^ 63 - 1 := rfl
  rw [Decimal.int64?, String.toList_ofList, numeral.integer?, least, most]
  show (if (decide (-2 ^ 63 ≤ n) && decide (n ≤ 2 ^ 63 - 1)) = true then _ else _) = _
  refine if_congr ?_ rfl rfl
  rw [Bool.and_eq_true, decide_eq_true_eq, decide_eq_true_eq, Int.le_sub_one_iff]

/-- An integer is denoted by its own text. -/
theorem numeral_toString (n : Int) : Numeral (toString n).toList n := by
  have digits (m : Nat) : Nat.toDigits 10 m ≠ [] ∧ ∀ c ∈ Nat.toDigits 10 m, c.isDigit = true :=
    ⟨List.length_pos_iff.mp Nat.length_toDigits_pos, fun _ => isDigit_of_mem_toDigits⟩
  cases n with
  | ofNat m =>
      have numeral := Numeral.bare _ (digits m).1 (digits m).2
      rw [Nat.ofDigitChars_ten_toDigits] at numeral
      have text : (toString (Int.ofNat m)).toList = Nat.toDigits 10 m := Nat.toList_repr
      rw [text]
      exact numeral
  | negSucc m =>
      have numeral := Numeral.minus _ (digits (m + 1)).1 (digits (m + 1)).2
      rw [Nat.ofDigitChars_ten_toDigits] at numeral
      rw [toList_negSucc]
      exact numeral

theorem toString_injective {m n : Int} (same : toString m = toString n) : m = n := by
  have read := (numeral_toString m).integer?
  rw [same, (numeral_toString n).integer?] at read
  exact (Option.some.inj read).symm

theorem ofList_toLower_ne {digits : List Char} (nonempty : digits ≠ [])
    (all : ∀ c ∈ digits, c.isDigit = true) {first : Char} {rest : List Char}
    (letter : first.isDigit = false) :
    String.ofList (digits.map Char.toLower) ≠ String.ofList (first :: rest) := by
  intro same
  obtain ⟨c, later, rfl⟩ := List.exists_cons_of_ne_nil nonempty
  have lower := (List.cons.inj (String.ofList_injective same)).1
  have digit := all c (List.mem_cons_self ..)
  have kept : c.toLower = c := by
    simp only [Char.isDigit, Bool.and_eq_true, decide_eq_true_eq] at digit
    have high : c.toNat ≤ 57 := digit.2
    refine dif_neg ?_
    rintro ⟨upper, -⟩
    have low : 65 ≤ c.toNat := upper
    omega
  rw [← lower, kept, digit] at letter
  cases letter

theorem unsigned?_digits {digits : List Char} (nonempty : digits ≠ [])
    (all : ∀ c ∈ digits, c.isDigit = true) :
    unsigned? digits = some (nearest (ofDigits digits) 0) := by
  have noFraction : splitDigits digits = (digits, []) := by
    rw [splitDigits, List.takeWhile_eq_self_iff.mpr all, List.dropWhile_eq_nil_iff.mpr all]
  have notInf : String.ofList (digits.map Char.toLower) ≠ "inf" :=
    ofList_toLower_ne nonempty all (by decide)
  have notInfinity : String.ofList (digits.map Char.toLower) ≠ "infinity" :=
    ofList_toLower_ne nonempty all (by decide)
  have notNan : String.ofList (digits.map Char.toLower) ≠ "nan" :=
    ofList_toLower_ne nonempty all (by decide)
  have none : digits.isEmpty = false := by simpa using nonempty
  rw [unsigned?]
  dsimp only
  rw [if_neg (by simp [notInf, notInfinity]), if_neg notNan, noFraction]
  simp [none, exponentPart?]

/-- As a floating-point literal, a large integer is rounded. -/
theorem Numeral.float {core : List Char} {n : Int} (numeral : Numeral core n)
    (large : 2 ^ 63 ≤ n.natAbs) :
    ∃ x side, float (String.ofList core) = .ok x ∧ n = Sign.apply side n.natAbs ∧
      Rounded side n.natAbs x.toModel.unpack := by
  obtain ⟨negative, digits, split, nonempty, all, is⟩ := numeral.split
  have some' : String.ofList core ≠ "" := by
    intro same
    obtain rfl : core = [] := String.ofList_injective same
    exact numeral.trimmed.2 rfl
  have none : (String.ofList core).isEmpty = false := by simpa using some'
  have size : n.natAbs = ofDigits digits := by
    rw [is]
    cases negative <;> simp
  rw [Decimal.float, String.toList_ofList, split, none]
  dsimp only
  rw [unsigned?_digits nonempty all, size]
  rw [size] at large
  have rounded := rounded_nearest large
  cases negative with
  | false => exact ⟨_, .positive, rfl, is, rounded⟩
  | true => exact ⟨_, .negative, rfl, is, rounded.neg_float⟩

end RecordMapper.Decimal
