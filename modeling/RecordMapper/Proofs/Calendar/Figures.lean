import RecordMapper.Proofs.Calendar.Date
import RecordMapper.Proofs.Calendar.Numerals
import RecordMapper.Proofs.Text.Blank
/-! # Dates and times in figures

How the figures of a date and of a time are read one after another, whatever comes behind them: by the
tolerant reader (`Local.ofChars?_date`, `ofChars?_minute`, `ofChars?_second`), and by the one of
RFC 3339 (`Timestamp.ofRfc3339?_second`), for which the year has four digits and the offset ends the
text. -/
set_option autoImplicit false
namespace RecordMapper.Calendar

/-! ## Years -/

/-- A year has a sign if and only if it has not four digits. -/
theorem yearText_cases (year : Int) :
    (0 ≤ year ∧ year ≤ 9999 ∧ (yearText year).toList = (padded 4 year.toNat).toList) ∨
      (year < 0 ∧ (yearText year).toList = '-' :: (padded 4 year.natAbs).toList) ∨
      (9999 < year ∧ (yearText year).toList = '+' :: (padded 4 year.natAbs).toList) := by
  unfold yearText
  by_cases negative : year < 0
  · right
    left
    have outside : ¬ (0 ≤ year && year ≤ 9999) = true := by
      simp only [Bool.and_eq_true, decide_eq_true_eq]
      omega
    simp [outside, negative]
  · by_cases large : 9999 < year
    · right
      right
      have outside : ¬ (0 ≤ year && year ≤ 9999) = true := by
        simp only [Bool.and_eq_true, decide_eq_true_eq]
        omega
      simp [outside, negative, large]
    · left
      have inside : (0 ≤ year && year ≤ 9999) = true := by
        simp only [Bool.and_eq_true, decide_eq_true_eq]
        omega
      rw [if_pos inside]
      exact ⟨by omega, by omega, rfl⟩

theorem yearText_of_four {year : Int} (first : 0 ≤ year) (last : year ≤ 9999) :
    (yearText year).toList = (padded 4 year.toNat).toList := by
  rcases yearText_cases year with ⟨-, -, text⟩ | ⟨negative, -⟩ | ⟨large, -⟩
  · exact text
  · omega
  · omega

theorem isBlank_padded (width n : Nat) : ∀ c ∈ (padded width n).toList, Text.isBlank c = false :=
  fun c member => isBlank_of_isDigit (isDigit_padded width n c member)

theorem isBlank_yearText (year : Int) : ∀ c ∈ (yearText year).toList, Text.isBlank c = false := by
  rcases yearText_cases year with ⟨-, -, text⟩ | ⟨-, text⟩ | ⟨-, text⟩
  · rw [text]
    exact isBlank_padded 4 _
  · rw [text]
    exact List.forall_mem_cons.mpr ⟨by decide, isBlank_padded 4 _⟩
  · rw [text]
    exact List.forall_mem_cons.mpr ⟨by decide, isBlank_padded 4 _⟩

theorem yearText_ne_nil (year : Int) : (yearText year).toList ≠ [] := by
  rcases yearText_cases year with ⟨-, -, text⟩ | ⟨-, text⟩ | ⟨-, text⟩
  · rw [text]
    exact padded_ne_nil 4 _
  · simp [text]
  · simp [text]

theorem number?_padded_signed (n : Nat) (rest : List Char) (next : NoDigit rest) :
    number? ((padded 4 n).toList ++ rest).length ((padded 4 n).toList ++ rest) = some (n, rest) := by
  have short : (padded 4 n).toList.length ≤ ((padded 4 n).toList ++ rest).length := by
    rw [List.length_append]
    omega
  rw [number?_append _ _ (isDigit_padded 4 n) (padded_ne_nil 4 n) short (Or.inr next),
    ofDigits_padded]

theorem year?_minus (rest : List Char) :
    year? ('-' :: rest) = (number? rest.length rest).map fun read => (-(read.1 : Int), read.2) := rfl

theorem year?_plus (rest : List Char) :
    year? ('+' :: rest) = (number? rest.length rest).map fun read => ((read.1 : Int), read.2) := rfl

theorem year?_yearText (year : Int) (rest : List Char) (next : NoDigit rest) :
    year? ((yearText year).toList ++ rest) = some (year, rest) := by
  rcases yearText_cases year with ⟨low, high, text⟩ | ⟨negative, text⟩ | ⟨large, text⟩
  · have length := length_padded_four (show year.toNat < 10000 by omega)
    have all := isDigit_padded 4 year.toNat
    have read := number?_append _ rest all (padded_ne_nil 4 _) (Nat.le_of_eq length) (Or.inr next)
    rw [ofDigits_padded] at read
    have value : (year.toNat : Int) = year := Int.toNat_of_nonneg low
    rw [text, year?, dropBlank_digits _ _ all (padded_ne_nil 4 _)]
    obtain ⟨c, tail, shape⟩ := List.exists_cons_of_ne_nil (padded_ne_nil 4 year.toNat)
    have digit : c.isDigit = true := all c (by simp [shape])
    rw [shape, List.cons_append] at read ⊢
    split
    · next same =>
        obtain ⟨rfl, -⟩ := List.cons.inj same
        exact absurd digit (by decide)
    · next same =>
        obtain ⟨rfl, -⟩ := List.cons.inj same
        exact absurd digit (by decide)
    · rw [read, Option.map_some]
      dsimp only
      rw [value]
  · have value : -((year.natAbs : Nat) : Int) = year := by omega
    rw [text, List.cons_append, year?_minus, number?_padded_signed _ _ next, Option.map_some, value]
  · have value : ((year.natAbs : Nat) : Int) = year := by omega
    rw [text, List.cons_append, year?_plus, number?_padded_signed _ _ next, Option.map_some, value]

/-! ## Parts -/

theorem after?_self (c : Char) (rest : List Char) : after? c (c :: rest) = some rest := if_pos rfl

theorem part?_blank (rest : List Char) : part? (' ' :: rest) = part? rest := rfl

theorem Date.toList_text (d : Date) : d.text.toList = (yearText d.year).toList ++
    '-' :: ((padded 2 d.month).toList ++ '-' :: (padded 2 d.day).toList) := by
  simp [text]

/-- A text that begins with a year and ends without white space has none around it. -/
theorem trimmed_year (year : Int) (middle : List Char) {last : List Char} (ends : last ≠ [])
    (shown : ∀ c ∈ last, Text.isBlank c = false) :
    Text.Trimmed ((yearText year).toList ++ middle ++ last) :=
  .append middle (yearText_ne_nil year) ends (isBlank_yearText year) shown

def clockText (hour minute second : Nat) : String :=
  padded 2 hour ++ ":" ++ padded 2 minute ++ ":" ++ padded 2 second

theorem toList_clockText (hour minute second : Nat) : (clockText hour minute second).toList =
    (padded 2 hour).toList ++ ':' :: ((padded 2 minute).toList ++ ':' :: (padded 2 second).toList) := by
  simp [clockText]

/-! ## The tolerant reader -/

namespace Local
variable {d : Date} {hour minute second : Nat}

theorem ofChars?_date (valid : d.IsValid) :
    Local.ofChars? d.text.toList = Local.ofParts? d.year d.month d.day 0 0 0 0 := by
  have day := part?_padded valid.day_lt []
  rw [List.append_nil] at day
  rw [Date.toList_text, Local.ofChars?, year?_yearText _ _ (noDigit_cons _ (by decide))]
  simp only [Option.bind_eq_bind, Option.bind_some, after?_self, part?_padded valid.month_lt, day,
    List.isEmpty_nil, if_true]

theorem ofChars?_minute (valid : d.IsValid) (hours : hour < 100) (minutes : minute < 100) :
    Local.ofChars? (d.text.toList ++ ' ' :: ((padded 2 hour).toList ++ ':' ::
      (padded 2 minute).toList)) = Local.ofParts? d.year d.month d.day hour minute 0 0 := by
  have last := part?_padded minutes []
  rw [List.append_nil] at last
  rw [Date.toList_text, List.append_assoc, Local.ofChars?, List.cons_append,
    year?_yearText _ _ (noDigit_cons _ (by decide))]
  simp only [Option.bind_eq_bind, Option.bind_some, after?_self, part?_padded valid.month_lt,
    List.append_assoc, List.cons_append, part?_padded valid.day_lt, List.isEmpty_cons,
    Bool.false_eq_true, if_false, part?_blank, part?_padded hours, last, seconds?]

theorem ofChars?_second (valid : d.IsValid) (hours : hour < 100) (minutes : minute < 100)
    (seconds : second < 100) {fraction : List Char} {nanos : Nat}
    (read : fraction? fraction = some (nanos, [])) :
    Local.ofChars? (d.text.toList ++ ' ' :: ((clockText hour minute second).toList ++ fraction)) =
      Local.ofParts? d.year d.month d.day hour minute second nanos := by
  rw [Date.toList_text, List.append_assoc, Local.ofChars?, List.cons_append,
    year?_yearText _ _ (noDigit_cons _ (by decide))]
  simp only [Option.bind_eq_bind, Option.bind_some, after?_self, part?_padded valid.month_lt,
    List.append_assoc, List.cons_append, part?_padded valid.day_lt, List.isEmpty_cons,
    Bool.false_eq_true, if_false, part?_blank, toList_clockText, part?_padded hours,
    part?_padded minutes, seconds?, part?_padded seconds, read, List.isEmpty_nil, if_true]

end Local

/-! ## The reader of RFC 3339 -/

namespace Timestamp
variable {d : Date} {hour minute second : Nat}

theorem ofRfc3339?_cons_noDigit {c : Char} (rest : List Char) (other : c.isDigit = false) :
    ofRfc3339? (c :: rest) = none := by
  rw [ofRfc3339?, fixed?_cons_noDigit (by decide) _ other]
  rfl

theorem fixed?_year (first : 0 ≤ d.year) (last : d.year ≤ 9999) (rest : List Char) :
    fixed? 4 ((yearText d.year).toList ++ rest) = some (d.year.toNat, rest) := by
  have length := length_padded_four (show d.year.toNat < 10000 by omega)
  rw [yearText_of_four first last, fixed?_append _ _ (isDigit_padded 4 _) length, ofDigits_padded]

theorem ofRfc3339?_date (valid : d.IsValid) (first : 0 ≤ d.year) (last : d.year ≤ 9999) :
    ofRfc3339? d.text.toList = none := by
  have day := fixed?_padded_two valid.day_lt []
  rw [List.append_nil] at day
  rw [Date.toList_text, ofRfc3339?, fixed?_year first last]
  simp only [Option.bind_eq_bind, Option.bind_some, after?_self, fixed?_padded_two valid.month_lt, day]
  rfl

theorem ofRfc3339?_minute (valid : d.IsValid) (first : 0 ≤ d.year) (last : d.year ≤ 9999)
    (hours : hour < 100) (minutes : minute < 100) :
    ofRfc3339? (d.text.toList ++ ' ' :: ((padded 2 hour).toList ++ ':' ::
      (padded 2 minute).toList)) = none := by
  have last' := fixed?_padded_two minutes []
  rw [List.append_nil] at last'
  have upper : ∀ rest, after? 'T' (' ' :: rest) = none := fun rest => rfl
  have lower : ∀ rest, after? 't' (' ' :: rest) = none := fun rest => rfl
  rw [Date.toList_text, List.append_assoc, ofRfc3339?, fixed?_year first last]
  simp only [Option.bind_eq_bind, Option.bind_some, after?_self, fixed?_padded_two valid.month_lt,
    List.append_assoc, List.cons_append, fixed?_padded_two valid.day_lt, upper, lower,
    Option.orElse_eq_orElse, Option.orElse_none, fixed?_padded_two hours, last']
  rfl

/-- What comes behind the seconds is the fraction and the offset. -/
theorem ofRfc3339?_second (valid : d.IsValid) (first : 0 ≤ d.year) (last : d.year ≤ 9999)
    (hours : hour < 100) (minutes : minute < 100) (seconds : second < 100) {separator : Char}
    (separates : separator = 'T' ∨ separator = ' ') (rest : List Char) :
    ofRfc3339? (d.text.toList ++ separator :: ((clockText hour minute second).toList ++ rest)) =
      (fraction? rest).bind fun read => (zone? read.2).bind fun offset =>
        (Local.ofParts? d.year d.month d.day hour minute second read.1).bind fun l =>
          ofLocal? l offset := by
  have separated : ∀ cs, (after? 'T' (separator :: cs) <|> after? 't' (separator :: cs) <|>
      after? ' ' (separator :: cs)) = some cs := by
    intro cs
    rcases separates with rfl | rfl <;> rfl
  have year : ((d.year.toNat : Nat) : Int) = d.year := Int.toNat_of_nonneg first
  rw [Date.toList_text, List.append_assoc, ofRfc3339?, fixed?_year first last]
  simp only [Option.bind_eq_bind, Option.bind_some, after?_self, fixed?_padded_two valid.month_lt,
    List.append_assoc, List.cons_append, fixed?_padded_two valid.day_lt, separated, toList_clockText,
    fixed?_padded_two hours, fixed?_padded_two minutes, fixed?_padded_two seconds, year]

end Timestamp

end RecordMapper.Calendar
