import RecordMapper.Decimal.Layout
import RecordMapper.Proofs.Decimal.Digits
import RecordMapper.Proofs.Decimal.Equality
import RecordMapper.Proofs.Decimal.Numeral
/-! # The texts of doubles

However a decimal is laid out, its text denotes it (`denoted_decimal`).  So two doubles have one text
only if one decimal is rounded to both, and then they are the same (`render_injective`). -/
set_option autoImplicit false
namespace RecordMapper.Decimal

/-! ## What a text denotes -/

/-- The number that is written with digits, a point and an exponent. -/
def denoted (cs : List Char) : Option ℚ :=
  let whole := splitDigits cs
  let fraction := match whole.2 with
    | '.' :: rest => splitDigits rest
    | rest => ([], rest)
  (exponentPart? fraction.2).map fun exponent =>
    (ofDigits (whole.1 ++ fraction.1) : ℚ) * 10 ^ (exponent - (fraction.1.length : Int))

theorem head_of_exponentPart? {back : List Char} {exponent : Int}
    (tail : exponentPart? back = some exponent) :
    ∀ c ∈ back.head?, c.isDigit = false ∧ c ≠ '.' := by
  intro c first
  cases back with
  | nil => cases first
  | cons mark rest =>
      obtain rfl : mark = c := Option.some.inj first
      rw [exponentPart?] at tail
      dsimp only at tail
      split at tail
      · next shape =>
          simp only [Bool.and_eq_true, Bool.or_eq_true, decide_eq_true_eq] at shape
          rcases shape.1.1 with rfl | rfl <;> decide
      · cases tail

variable {whole fraction back : List Char} {exponent : Int}

theorem denoted_plain (all : ∀ c ∈ whole, c.isDigit = true)
    (tail : exponentPart? back = some exponent) :
    denoted (whole ++ back) = some ((ofDigits whole : ℚ) * 10 ^ exponent) := by
  have head := head_of_exponentPart? tail
  rw [denoted, splitDigits_append all fun c first => (head c first).1]
  dsimp only
  split
  · next rest => exact absurd rfl (head '.' rfl).2
  · simp [tail]

theorem denoted_point (all : ∀ c ∈ whole, c.isDigit = true)
    (all' : ∀ c ∈ fraction, c.isDigit = true) (tail : exponentPart? back = some exponent) :
    denoted (whole ++ '.' :: (fraction ++ back)) =
      some ((ofDigits (whole ++ fraction) : ℚ) * 10 ^ (exponent - (fraction.length : Int))) := by
  have head := head_of_exponentPart? tail
  have point : ∀ c ∈ ('.' :: (fraction ++ back)).head?, c.isDigit = false := by
    intro c first
    obtain rfl : '.' = c := Option.some.inj first
    decide
  have behind := splitDigits_append all' fun c first => (head c first).1
  rw [denoted, splitDigits_append all point]
  simp only [behind, tail, Option.map_some]

/-! ## Layouts -/

namespace Layout
variable {digits : List Char}

theorem denoted_positional (layout : Layout) (all : ∀ c ∈ digits, c.isDigit = true) (e : Int) :
    denoted (layout.positional digits e).toList =
      some ((ofDigits digits : ℚ) * 10 ^ (e - (digits.length - 1 : Int))) := by
  have ended : exponentPart? [] = some 0 := rfl
  have zeros (n : Nat) : ∀ c ∈ List.replicate n '0', c.isDigit = true := by
    intro c member
    rw [List.eq_of_mem_replicate member]
    decide
  rw [positional]
  split
  · next small =>
      have shape : ("0." ++ Decimal.zeros (-e - 1).toNat ++ String.ofList digits).toList =
          List.replicate 1 '0' ++ '.' :: ((List.replicate (-e - 1).toNat '0' ++ digits) ++ []) := by
        simp [Decimal.zeros]
      rw [shape, denoted_point (zeros 1) (List.forall_mem_append.mpr ⟨zeros _, all⟩) ended,
        ofDigits_zeros_append, ofDigits_zeros_append, List.length_append, List.length_replicate]
      congr 3
      omega
  · next large =>
      dsimp only
      split
      · next few =>
          have digital := List.forall_mem_append.mpr ⟨all, zeros (e.toNat + 1 - digits.length)⟩
          have power : (ofDigits digits * 10 ^ (e.toNat + 1 - digits.length) : Nat) =
              (ofDigits digits : ℚ) * 10 ^ (e - (digits.length - 1 : Int)) := by
            push_cast
            rw [← zpow_natCast]
            congr 2
            omega
          cases layout.pointZero with
          | true =>
              have shape : (String.ofList digits ++ Decimal.zeros (e.toNat + 1 - digits.length) ++
                  ".0").toList = (digits ++ List.replicate (e.toNat + 1 - digits.length) '0') ++
                    '.' :: (List.replicate 1 '0' ++ []) := by
                simp [Decimal.zeros]
              have tenth : ((10 ^ 1 : Nat) : ℚ) * 10 ^ (0 - ((List.replicate 1 '0').length : Int)) = 1 := by
                norm_num
              rw [if_pos rfl, shape, denoted_point digital (zeros 1) ended, ofDigits_append_zeros,
                ofDigits_append_zeros, ← power, Nat.cast_mul _ (10 ^ 1), mul_assoc, tenth, mul_one]
          | false =>
              have shape : (String.ofList digits ++ Decimal.zeros (e.toNat + 1 - digits.length) ++
                  "").toList = (digits ++ List.replicate (e.toNat + 1 - digits.length) '0') ++ [] := by
                simp [Decimal.zeros]
              rw [if_neg (by decide), shape, denoted_plain digital ended, ofDigits_append_zeros,
                ← power, zpow_zero, mul_one]
      · next many =>
          have shape : (String.ofList (digits.take (e.toNat + 1)) ++ "." ++
              String.ofList (digits.drop (e.toNat + 1))).toList =
              digits.take (e.toNat + 1) ++ '.' :: (digits.drop (e.toNat + 1) ++ []) := by
            simp
          rw [shape, denoted_point (fun c member => all c (List.mem_of_mem_take member))
            (fun c member => all c (List.mem_of_mem_drop member)) ended, List.take_append_drop,
            List.length_drop]
          congr 3
          omega

theorem exponentPart?_signed (plusSign : Bool) (e : Int) :
    exponentPart? ('e' :: ((if e < 0 then "-" else if plusSign then "+" else "").toList ++
      Nat.toDigits 10 e.natAbs)) = some e := by
  have all := fun c => @isDigit_of_mem_toDigits e.natAbs c
  have some' : Nat.toDigits 10 e.natAbs ≠ [] := List.length_pos_iff.mp Nat.length_toDigits_pos
  have value := ofDigits_toDigits e.natAbs
  generalize Nat.toDigits 10 e.natAbs = digits at all some' value
  have signed : splitSign ((if e < 0 then "-" else if plusSign then "+" else "").toList ++ digits) =
      (decide (e < 0), digits) := by
    split
    · next negative => simp [splitSign, negative]
    · next natural =>
        cases plusSign with
        | true => simp [splitSign, natural]
        | false => simpa [natural] using splitSign_digits all
  have present : digits.isEmpty = false := by simpa using some'
  have digital : digits.all Char.isDigit = true := List.all_eq_true.mpr all
  have number : (if decide (e < 0) = true then -(e.natAbs : Int) else e.natAbs) = e := by
    by_cases negative : e < 0
    · rw [if_pos (decide_eq_true negative)]
      omega
    · rw [if_neg (by simpa using negative)]
      omega
  simp only [exponentPart?, signed, present, digital, value, number]
  exact if_pos rfl

theorem denoted_withExponent (layout : Layout) (all : ∀ c ∈ digits, c.isDigit = true)
    (some' : digits ≠ []) (e : Int) : denoted (layout.withExponent digits e).toList =
      some ((ofDigits digits : ℚ) * 10 ^ (e - (digits.length - 1 : Int))) := by
  obtain ⟨first, rest, rfl⟩ := List.exists_cons_of_ne_nil some'
  have mark := exponentPart?_signed layout.plusSign e
  have lead : ∀ c ∈ [first], c.isDigit = true := fun c member => all c (by simp_all)
  have later : ∀ c ∈ rest, c.isDigit = true := fun c member => all c (List.mem_cons_of_mem first member)
  have written : (layout.withExponent (first :: rest) e).toList = [first] ++
      ((if rest.isEmpty then [] else '.' :: rest) ++
        'e' :: ((if e < 0 then "-" else if layout.plusSign then "+" else "").toList ++
          Nat.toDigits 10 e.natAbs)) := by
    have digits : (toString e.natAbs).toList = Nat.toDigits 10 e.natAbs := by
      show (Nat.repr e.natAbs).toList = _
      simp [Nat.repr]
    rw [withExponent]
    simp only [String.toList_append, String.toList_ofList, digits]
    cases rest with
    | nil => simp
    | cons second later => simp
  rw [written]
  by_cases none : rest = []
  · subst none
    have exponent : e - (([first] : List Char).length - 1 : Int) = e := by simp
    rw [exponent]
    exact denoted_plain lead mark
  · have some'' : rest.isEmpty = false := by simpa using none
    have exponent : e - ((first :: rest).length - 1 : Int) = e - rest.length := by
      rw [List.length_cons]
      omega
    rw [exponent, some'', if_neg (by decide)]
    exact denoted_point lead later mark

/-- A decimal is what its text denotes, however it is laid out. -/
theorem denoted_decimal (layout : Layout) (d : Scientific) :
    denoted (layout.decimal d).toList = some d.value := by
  have all := fun c => @isDigit_of_mem_toDigits d.coefficient c
  have some' : Nat.toDigits 10 d.coefficient ≠ [] := List.length_pos_iff.mp Nat.length_toDigits_pos
  have place : d.exponent + (Nat.toDigits 10 d.coefficient).length - 1 -
      ((Nat.toDigits 10 d.coefficient).length - 1 : Int) = d.exponent := by
    omega
  rw [decimal]
  split
  · rw [layout.denoted_positional all, place, ofDigits_toDigits]
    rfl
  · rw [layout.denoted_withExponent all some', place, ofDigits_toDigits]
    rfl

end Layout

/-! ## Characters -/

def Numeric (c : Char) : Prop := c.isDigit = true ∨ c ∈ ['-', '+', '.', 'e']

theorem numeric_toDigits {n : Nat} : ∀ c ∈ Nat.toDigits 10 n, Numeric c :=
  fun _ member => .inl (isDigit_of_mem_toDigits member)

theorem numeric_zeros (n : Nat) : ∀ c ∈ (zeros n).toList, Numeric c := by
  intro c member
  rw [zeros, String.toList_ofList] at member
  rw [List.eq_of_mem_replicate member]
  exact .inl (by decide)

namespace Layout
variable {digits : List Char}

theorem numeric_positional (layout : Layout) (all : ∀ c ∈ digits, Numeric c) (e : Int) :
    ∀ c ∈ (layout.positional digits e).toList, Numeric c := by
  have mark : ∀ c ∈ ['0', '.'], Numeric c := by
    intro c member
    rcases List.mem_cons.mp member with rfl | member
    · exact .inl (by decide)
    · obtain rfl := List.mem_singleton.mp member
      exact .inr (by decide)
  intro c member
  rw [positional] at member
  split at member
  · simp only [String.toList_append, String.toList_ofList, List.mem_append] at member
    rcases member with (lead | zero) | digit
    · exact mark c lead
    · exact numeric_zeros _ c zero
    · exact all c digit
  · dsimp only at member
    split at member
    · simp only [String.toList_append, String.toList_ofList, List.mem_append] at member
      rcases member with (digit | zero) | point
      · exact all c digit
      · exact numeric_zeros _ c zero
      · split at point
        · exact mark c (List.mem_reverse.mp point)
        · cases point
    · simp only [String.toList_append, String.toList_ofList, List.mem_append] at member
      rcases member with (digit | point) | digit
      · exact all c (List.mem_of_mem_take digit)
      · exact mark c (List.mem_cons_of_mem _ point)
      · exact all c (List.mem_of_mem_drop digit)

theorem numeric_withExponent (layout : Layout) (all : ∀ c ∈ digits, Numeric c) (e : Int) :
    ∀ c ∈ (layout.withExponent digits e).toList, Numeric c := by
  have mark : ∀ c ∈ ['-', '+', '.', 'e'], Numeric c := fun c member => .inr member
  intro c member
  simp only [withExponent, String.toList_append, String.toList_ofList, List.mem_append] at member
  rcases member with (((digit | point) | exponent) | sign) | digit
  · exact all c (List.mem_of_mem_take digit)
  · split at point
    · cases point
    · simp only [String.toList_append, String.toList_ofList, List.mem_append] at point
      rcases point with point | digit
      · exact mark c (by simp_all)
      · exact all c (List.mem_of_mem_drop digit)
  · exact mark c (by simp_all)
  · split at sign
    · exact mark c (by simp_all)
    · split at sign
      · exact mark c (by simp_all)
      · cases sign
  · have shown : (toString e.natAbs).toList = Nat.toDigits 10 e.natAbs := Nat.toList_repr
    rw [shown] at digit
    exact numeric_toDigits c digit

theorem numeric_decimal (layout : Layout) (d : Scientific) :
    ∀ c ∈ (layout.decimal d).toList, Numeric c := by
  rw [decimal]
  split
  · exact layout.numeric_positional numeric_toDigits _
  · exact layout.numeric_withExponent numeric_toDigits _

/-- Where whole numbers end in a zero behind a point, no number is written with digits alone. -/
theorem marked_decimal (layout : Layout) (pointZero : layout.pointZero = true) (d : Scientific) :
    ∃ c ∈ (layout.decimal d).toList, c = '.' ∨ c = 'e' := by
  rw [decimal]
  split
  · refine ⟨'.', ?_, .inl rfl⟩
    rw [positional]
    split
    · simp
    · dsimp only
      split
      · simp
      · simp
  · exact ⟨'e', by simp [withExponent], .inr rfl⟩

/-! ## Doubles apart -/

theorem head_decimal (layout : Layout) (d : Scientific) :
    ∃ c, (layout.decimal d).toList.head? = some c ∧ c.isDigit = true := by
  have all := fun c => @isDigit_of_mem_toDigits d.coefficient c
  have some' : Nat.toDigits 10 d.coefficient ≠ [] := List.length_pos_iff.mp Nat.length_toDigits_pos
  rw [decimal]
  generalize Nat.toDigits 10 d.coefficient = digits at all some'
  obtain ⟨first, rest, rfl⟩ := List.exists_cons_of_ne_nil some'
  have digit := all first (List.mem_cons_self ..)
  split
  · rw [positional]
    split
    · exact ⟨'0', by simp, by decide⟩
    · dsimp only
      split
      · exact ⟨first, by simp, digit⟩
      · exact ⟨first, by simp, digit⟩
  · exact ⟨first, by simp [withExponent], digit⟩

def Clear (layout : Layout) : Prop :=
  ∃ c, layout.infinity.toList.head? = some c ∧ c.isDigit = false ∧ c ≠ '-'

def magnitude (layout : Layout) (x : Float) : String :=
  if x.isInf then layout.infinity else layout.decimal ((Binary.ofFloat x).shortest layout.tie)

theorem toList_render (layout : Layout) {x : Float} (number : x.isNaN = false) :
    (layout.render x).toList =
      (if isNegative x then ['-'] else []) ++ (layout.magnitude x).toList := by
  rw [render, if_neg (Bool.eq_false_iff.mp number), String.toList_append]
  cases isNegative x <;> rfl

variable {layout : Layout} (clear : layout.Clear)
include clear

theorem head_magnitude (x : Float) : ∃ c, (layout.magnitude x).toList.head? = some c ∧ c ≠ '-' ∧
    (c.isDigit = true ↔ x.isInf = false) := by
  rw [magnitude]
  split
  · next infinite =>
      obtain ⟨c, first, letter, other⟩ := clear
      exact ⟨c, first, other, by simp [letter, infinite]⟩
  · next finite =>
      obtain ⟨c, first, digit⟩ := layout.head_decimal ((Binary.ofFloat x).shortest layout.tie)
      refine ⟨c, first, ?_, by simpa [digit] using finite⟩
      rintro rfl
      cases digit

/-- A double is told by its text without the sign, but for the sign. -/
theorem magnitude_eq {x y : Float} (same : layout.magnitude x = layout.magnitude y) :
    (Binary.ofFloat x).mantissa = (Binary.ofFloat y).mantissa ∧
      (Binary.ofFloat x).exponent = (Binary.ofFloat y).exponent := by
  obtain ⟨c, first, -, finite⟩ := head_magnitude clear x
  obtain ⟨c', first', -, finite'⟩ := head_magnitude clear y
  rw [same, first'] at first
  obtain rfl := Option.some.inj first
  have both : x.isInf = false ↔ y.isInf = false := finite.symm.trans finite'
  by_cases infinite : x.isInf = true
  · have infinite' : y.isInf = true := by
      rw [← Bool.not_eq_false, ← both, infinite]
      decide
    obtain ⟨mantissa, exponent⟩ := magnitude_of_isInf infinite
    obtain ⟨mantissa', exponent'⟩ := magnitude_of_isInf infinite'
    exact ⟨mantissa.trans mantissa'.symm, exponent.trans exponent'.symm⟩
  · have infinite' : ¬ y.isInf = true := by
      rw [Bool.not_eq_true, ← both]
      simpa using infinite
    rw [magnitude, magnitude, if_neg infinite, if_neg infinite'] at same
    have number := layout.denoted_decimal ((Binary.ofFloat x).shortest layout.tie)
    rw [same, denoted_decimal] at number
    have rounds := (Binary.ofFloat x).rounds_shortest layout.tie
    rw [← Option.some.inj number] at rounds
    exact Binary.eq_of_rounds (canonical_ofFloat x) (canonical_ofFloat y) rounds
      ((Binary.ofFloat y).rounds_shortest layout.tie)

/-- Two doubles have one text only if they are the same. -/
theorem render_injective {x y : Float} (number : x.isNaN = false) (number' : y.isNaN = false)
    (same : layout.render x = layout.render y) : x = y := by
  have chars := congrArg String.toList same
  rw [toList_render layout number, toList_render layout number'] at chars
  obtain ⟨c, first, unsigned, -⟩ := head_magnitude clear x
  obtain ⟨c', first', unsigned', -⟩ := head_magnitude clear y
  have heads := congrArg List.head? chars
  rw [List.head?_append, List.head?_append, first, first'] at heads
  have signs : isNegative x = isNegative y := by
    cases negative : isNegative x <;> cases negative' : isNegative y
    · rfl
    · rw [negative, negative'] at heads
      exact absurd (Option.some.inj heads) unsigned
    · rw [negative, negative'] at heads
      exact absurd (Option.some.inj heads).symm unsigned'
    · rfl
  rw [signs] at chars
  obtain ⟨mantissas, exponents⟩ :=
    magnitude_eq clear (String.toList_inj.mp (List.append_cancel_left chars))
  exact eq_of_magnitude signs mantissas exponents

end Layout

end RecordMapper.Decimal
