/-! # Dates

The Gregorian calendar, extended to all years, as a numbering of days.  `Date.toDays` counts from
1 January 1970; `Date.ofDays` is the date of a day.  A year is found from its average length and
corrected by at most one; a month by taking month lengths off the day of the year. -/
set_option autoImplicit false
namespace RecordMapper.Calendar

structure Date where
  year : Int
  month : Nat
  day : Nat
deriving DecidableEq, Repr

def isLeap (year : Int) : Bool := year % 4 == 0 && (year % 100 != 0 || year % 400 == 0)

def monthLengths (leap : Bool) : List Nat :=
  [31, if leap then 29 else 28, 31, 30, 31, 30, 31, 31, 30, 31, 30, 31]

def daysBeforeYear (year : Int) : Int :=
  365 * (year - 1) + (year - 1) / 4 - (year - 1) / 100 + (year - 1) / 400

def epochDay : Int := daysBeforeYear 1970

def yearOfDay (n : Int) : Int :=
  let guess := 400 * n / 146097 + 1
  if n < daysBeforeYear guess then guess - 1
  else if daysBeforeYear (guess + 1) ≤ n then guess + 1
  else guess

/-- The months that are over on a day of the year, and the days of the next month before it; `d`
counts from 0. -/
def splitMonths : List Nat → Nat → Nat × Nat
  | [], d => (0, d)
  | length :: rest, d =>
    if d < length then (0, d)
    else
      let later := splitMonths rest (d - length)
      (later.1 + 1, later.2)

namespace Date

def IsValid (d : Date) : Prop :=
  1 ≤ d.month ∧ d.month ≤ 12 ∧ 1 ≤ d.day ∧
    d.day ≤ (monthLengths (isLeap d.year)).getD (d.month - 1) 0

instance (d : Date) : Decidable d.IsValid :=
  inferInstanceAs (Decidable (_ ∧ _ ∧ _ ∧ _))

/-- The number of the day when 1 January 1970 is day 0. -/
def toDays (d : Date) : Int :=
  let daysBeforeMonth : Nat := ((monthLengths (isLeap d.year)).take (d.month - 1)).foldr (· + ·) 0
  daysBeforeYear d.year + daysBeforeMonth + d.day - 1 - epochDay

def ofDays (n : Int) : Date :=
  let day := n + epochDay
  let year := yearOfDay day
  let split := splitMonths (monthLengths (isLeap year)) (day - daysBeforeYear year).toNat
  { year := year, month := split.1 + 1, day := split.2 + 1 }

example : ofDays 0 = ⟨1970, 1, 1⟩ ∧ ofDays 11016 = ⟨2000, 2, 29⟩ ∧
    ofDays (-719529) = ⟨-1, 12, 31⟩ := by
  decide

end Date

end RecordMapper.Calendar
