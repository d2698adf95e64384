import RecordMapper.Calendar.Date
/-! # Dates and days

Every day has one date.  `yearOfDay_bounds`: the year of a day begins no later than the day, and the
next one after it.  `toDays_ofDays` and `isValid_ofDays`: the date of a day exists, and its number is
that of the day. -/
set_option autoImplicit false
namespace RecordMapper.Calendar

/-! ## Years -/

theorem daysBeforeYear_succ (year : Int) :
    daysBeforeYear (year + 1) = daysBeforeYear year + if isLeap year then 366 else 365 := by
  unfold daysBeforeYear isLeap
  by_cases four : year % 4 = 0
  · by_cases hundred : year % 100 = 0
    · by_cases fourHundred : year % 400 = 0
      · simp only [four, hundred, fourHundred]
        simp
        omega
      · simp only [four, hundred]
        simp [fourHundred]
        omega
    · simp only [four]
      simp [hundred]
      omega
  · simp [four]
    omega

/-- The year of a day has begun, and the next one has not. -/
theorem yearOfDay_bounds (n : Int) :
    daysBeforeYear (yearOfDay n) ≤ n ∧ n < daysBeforeYear (yearOfDay n + 1) := by
  unfold yearOfDay
  dsimp only
  by_cases late : n < daysBeforeYear (400 * n / 146097 + 1)
  · rw [if_pos late]
    unfold daysBeforeYear at late ⊢
    omega
  · rw [if_neg late]
    by_cases early : daysBeforeYear (400 * n / 146097 + 1 + 1) ≤ n
    · rw [if_pos early]
      unfold daysBeforeYear at late early ⊢
      omega
    · rw [if_neg early]
      omega

theorem daysBeforeYear_mono {first second : Int} (le : first ≤ second) :
    daysBeforeYear first ≤ daysBeforeYear second := by
  unfold daysBeforeYear
  omega

/-! ## Months -/

theorem splitMonths_bounds (lengths : List Nat) (d : Nat)
    (within : d < lengths.foldr (· + ·) 0) :
    (splitMonths lengths d).1 < lengths.length ∧
      (splitMonths lengths d).2 < lengths.getD (splitMonths lengths d).1 0 ∧
      (lengths.take (splitMonths lengths d).1).foldr (· + ·) 0 + (splitMonths lengths d).2 = d := by
  induction lengths generalizing d with
  | nil => exact absurd within (Nat.not_lt_zero d)
  | cons length rest ih =>
      by_cases here : d < length
      · simp [splitMonths, here]
      · have later : d - length < rest.foldr (· + ·) 0 := by
          simp only [List.foldr_cons] at within
          omega
        obtain ⟨month, day, sum⟩ := ih (d - length) later
        simp only [splitMonths, if_neg here, List.length_cons, List.getD_cons_succ,
          List.take_succ_cons, List.foldr_cons]
        refine ⟨by omega, day, ?_⟩
        omega

theorem sum_monthLengths (leap : Bool) :
    (monthLengths leap).foldr (· + ·) 0 = if leap then 366 else 365 := by
  cases leap <;> rfl

theorem length_monthLengths (leap : Bool) : (monthLengths leap).length = 12 := by
  cases leap <;> rfl

namespace Date

theorem IsValid.month_lt {d : Date} (valid : d.IsValid) : d.month < 100 := by
  have month := valid.2.1
  omega

theorem IsValid.day_lt {d : Date} (valid : d.IsValid) : d.day < 100 := by
  obtain ⟨first, last, -, day⟩ := valid
  have lengths : ∀ leap : Bool, ∀ month < 12, (monthLengths leap).getD month 0 ≤ 31 := by decide
  have length := lengths (isLeap d.year) (d.month - 1) (by omega)
  omega

/-- A day falls into its year, so that its months can be split off. -/
theorem day_within_year (day : Int) :
    (day - daysBeforeYear (yearOfDay day)).toNat <
      (monthLengths (isLeap (yearOfDay day))).foldr (· + ·) 0 := by
  obtain ⟨begun, notOver⟩ := yearOfDay_bounds day
  rw [daysBeforeYear_succ] at notOver
  rw [sum_monthLengths]
  cases leap : isLeap (yearOfDay day) with
  | true =>
      rw [leap, if_pos rfl] at notOver
      rw [if_pos rfl]
      omega
  | false =>
      rw [leap, if_neg Bool.false_ne_true] at notOver
      rw [if_neg Bool.false_ne_true]
      omega

theorem toDays_ofDays (n : Int) : (ofDays n).toDays = n := by
  obtain ⟨begun, -⟩ := yearOfDay_bounds (n + epochDay)
  obtain ⟨-, -, sum⟩ := splitMonths_bounds _ _ (day_within_year (n + epochDay))
  simp only [ofDays, toDays, Nat.add_sub_cancel]
  omega

theorem isValid_ofDays (n : Int) : (ofDays n).IsValid := by
  obtain ⟨month, day, -⟩ := splitMonths_bounds _ _ (day_within_year (n + epochDay))
  rw [length_monthLengths] at month
  refine ⟨Nat.succ_pos _, month, Nat.succ_pos _, ?_⟩
  exact day

theorem toDays_first (year : Int) :
    (Date.mk year 1 1).toDays = daysBeforeYear year - epochDay := by
  simp only [toDays, Nat.sub_self, List.take_zero, List.foldr_nil]
  omega

theorem toDays_last (year : Int) :
    (Date.mk year 12 31).toDays = daysBeforeYear (year + 1) - 1 - epochDay := by
  have eleven : ((monthLengths (isLeap year)).take 11).foldr (· + ·) 0 =
      if isLeap year then 335 else 334 := by
    cases isLeap year <;> rfl
  simp only [toDays, Nat.reduceSub, eleven, daysBeforeYear_succ]
  split <;> omega

theorem year_ofDays_bounds {n first last : Int}
    (notBefore : (Date.mk first 1 1).toDays ≤ n) (notAfter : n ≤ (Date.mk last 12 31).toDays) :
    first ≤ (ofDays n).year ∧ (ofDays n).year ≤ last := by
  obtain ⟨begun, notOver⟩ := yearOfDay_bounds (n + epochDay)
  rw [toDays_first] at notBefore
  rw [toDays_last] at notAfter
  show first ≤ yearOfDay (n + epochDay) ∧ yearOfDay (n + epochDay) ≤ last
  constructor
  · refine Int.not_lt.mp fun early => ?_
    have mono := daysBeforeYear_mono (Int.add_one_le_of_lt early)
    omega
  · refine Int.not_lt.mp fun late => ?_
    have mono := daysBeforeYear_mono (Int.add_one_le_of_lt late)
    omega

theorem ofDays_bounds_of_year {n first last : Int} (notBefore : first ≤ (ofDays n).year)
    (notAfter : (ofDays n).year ≤ last) :
    (Date.mk first 1 1).toDays ≤ n ∧ n ≤ (Date.mk last 12 31).toDays := by
  obtain ⟨begun, notOver⟩ := yearOfDay_bounds (n + epochDay)
  have since := daysBeforeYear_mono (show first ≤ yearOfDay (n + epochDay) from notBefore)
  have upTo := daysBeforeYear_mono
    (show yearOfDay (n + epochDay) + 1 ≤ last + 1 from Int.add_le_add_right notAfter 1)
  rw [toDays_first, toDays_last]
  constructor
  · omega
  · omega

end Date

end RecordMapper.Calendar
