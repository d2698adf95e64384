import RecordMapper.Proofs.Calendar.Figures
/-! # Stored timestamps read back

A timestamp is stored as date and time in a zone.  `Local.ofChars?_text`: date and time are read back,
with the digits below the microsecond dropped, from year -262143 to year 262142.  `ofText?_stored`:
so is the instant, if the zone is one of whole minutes and a leap second stands at second 59. -/
set_option autoImplicit false
namespace RecordMapper.Calendar

namespace Local

/-- A date that exists, in the years of instants, and a time of day; a leap second is the last one of
its minute. -/
structure IsProper (l : Local) : Prop where
  date : l.date.IsValid
  yearMin : yearMin ≤ l.date.year
  yearMax : l.date.year ≤ yearMax
  hour : l.hour < 24
  minute : l.minute < 60
  second : l.second < 60
  nanos : l.nanos < 2 * nanosPerSecond
  leap : nanosPerSecond ≤ l.nanos → l.second = 59

def text (l : Local) : String :=
  l.date.text ++ " " ++ l.clock ++ "." ++ padded 6 (l.leapSecond.2 / 1000)

def behindYear (l : Local) : List Char :=
  '-' :: ((padded 2 l.date.month).toList ++ '-' :: ((padded 2 l.date.day).toList ++ ' ' ::
    ((padded 2 l.hour).toList ++ ':' :: ((padded 2 l.minute).toList ++ ':' ::
      ((padded 2 l.leapSecond.1).toList ++ '.' :: (padded 6 (l.leapSecond.2 / 1000)).toList)))))

theorem toList_text (l : Local) : l.text.toList = (yearText l.date.year).toList ++ l.behindYear := by
  simp [text, Date.text, clock, behindYear]

def toMicros (l : Local) : Local := { l with nanos := l.nanos / 1000 * 1000 }

namespace IsProper
variable {l : Local}

theorem month_lt (proper : l.IsProper) : l.date.month < 100 := proper.date.month_lt

theorem day_lt (proper : l.IsProper) : l.date.day < 100 := proper.date.day_lt

theorem hour_lt (proper : l.IsProper) : l.hour < 100 := Nat.lt_trans proper.hour (by decide)

theorem minute_lt (proper : l.IsProper) : l.minute < 100 := Nat.lt_trans proper.minute (by decide)

theorem leapSecond_lt (proper : l.IsProper) : l.leapSecond.1 < 100 := by
  have second := proper.second
  unfold leapSecond
  split <;> dsimp only <;> omega

theorem micros_lt (proper : l.IsProper) : l.leapSecond.2 / 1000 < 1000000 := by
  have nanos := proper.nanos
  unfold leapSecond
  unfold nanosPerSecond at nanos ⊢
  split <;> dsimp only <;> omega

theorem ofParts? (proper : l.IsProper) :
    Local.ofParts? l.date.year l.date.month l.date.day l.hour l.minute l.leapSecond.1
      (l.leapSecond.2 / 1000 * 1000) = some l.toMicros := by
  obtain ⟨date, yearMin, yearMax, hour, minute, second, nanos, leap⟩ := proper
  obtain ⟨⟨year, month, day⟩, h, m, s, n⟩ := l
  dsimp only at date yearMin yearMax hour minute second nanos leap
  by_cases isLeap : nanosPerSecond ≤ n
  · have last : s = 59 := leap isLeap
    subst last
    have sum : (n - nanosPerSecond) / 1000 * 1000 + nanosPerSecond = n / 1000 * 1000 := by
      unfold nanosPerSecond at isLeap ⊢
      omega
    simp [Local.ofParts?, leapSecond, toMicros, isLeap, yearMin, yearMax, date, hour, minute, sum]
  · have notSixty : s ≠ 60 := by omega
    have sixty : s ≤ 60 := by omega
    simp [Local.ofParts?, leapSecond, toMicros, isLeap, yearMin, yearMax, date, hour, minute,
      notSixty, sixty]

end IsProper

/-! ## Reading date and time -/

theorem toList_text_figures (l : Local) : l.text.toList = l.date.text.toList ++ ' ' ::
    ((clockText l.hour l.minute l.leapSecond.1).toList ++
      '.' :: (padded 6 (l.leapSecond.2 / 1000)).toList) := by
  simp [text, clock, clockText]

theorem ofChars?_text {l : Local} (proper : l.IsProper) :
    Local.ofChars? l.text.toList = some l.toMicros := by
  rw [toList_text_figures, ofChars?_second proper.date proper.hour_lt proper.minute_lt
    proper.leapSecond_lt (fraction?_padded proper.micros_lt), proper.ofParts?]

/-- A text without an offset is not RFC 3339. -/
theorem ofRfc3339?_text {l : Local} (proper : l.IsProper) :
    Timestamp.ofRfc3339? l.text.toList = none := by
  rcases yearText_cases l.date.year with ⟨first, last, -⟩ | ⟨-, text⟩ | ⟨-, text⟩
  · rw [toList_text_figures, Timestamp.ofRfc3339?_second proper.date first last proper.hour_lt
      proper.minute_lt proper.leapSecond_lt (.inr rfl), fraction?_padded proper.micros_lt]
    rfl
  · rw [toList_text, text, List.cons_append, Timestamp.ofRfc3339?_cons_noDigit _ (by decide)]
  · rw [toList_text, text, List.cons_append, Timestamp.ofRfc3339?_cons_noDigit _ (by decide)]

theorem trimmed_text (l : Local) : Text.Trimmed l.text.toList := by
  have shape : l.text.toList = (yearText l.date.year).toList ++
      ("-" ++ padded 2 l.date.month ++ "-" ++ padded 2 l.date.day ++ " " ++ l.clock ++ ".").toList ++
        (padded 6 (l.leapSecond.2 / 1000)).toList := by
    simp [text, Date.text]
  rw [shape]
  exact trimmed_year _ _ (padded_ne_nil 6 _) (isBlank_padded 6 _)

end Local

/-! ## Timestamps -/

namespace Timestamp

def toMicros (t : Timestamp) (zone : Offset) : Timestamp where
  seconds := t.seconds
  nanos := t.nanos / 1000 * 1000
  nanos_lt := Nat.lt_of_le_of_lt (Nat.div_mul_le_self _ _) t.nanos_lt
  offset := zone

def InRange (seconds : Int) : Prop := secondsMin ≤ seconds ∧ seconds ≤ secondsMax

instance (seconds : Int) : Decidable (InRange seconds) := inferInstanceAs (Decidable (_ ∧ _))

/-- Date and time of the timestamp exist both in universal time and in `zone`, and a leap second is
the last one of a minute. -/
structure Storable (t : Timestamp) (zone : Offset) : Prop where
  universal : InRange t.seconds
  zoned : InRange (t.seconds + zone.seconds)
  leap : nanosPerSecond ≤ t.nanos → t.seconds % 60 = 59

theorem toSeconds_ofSeconds (seconds : Int) (nanos : Nat) :
    (Local.ofSeconds seconds nanos).toSeconds = seconds := by
  simp only [Local.ofSeconds, Local.toSeconds, Date.toDays_ofDays]
  omega

theorem isProper_localAt {t : Timestamp} {zone : Offset} (storable : t.Storable zone)
    (minutes : zone.seconds % 60 = 0) : (t.localAt zone).IsProper := by
  obtain ⟨-, ⟨low, high⟩, leap⟩ := storable
  have notBefore : (Date.mk yearMin 1 1).toDays ≤ (t.seconds + zone.seconds) / 86400 := by
    unfold secondsMin at low
    omega
  have notAfter : (t.seconds + zone.seconds) / 86400 ≤ (Date.mk yearMax 12 31).toDays := by
    unfold secondsMax at high
    omega
  have year := Date.year_ofDays_bounds notBefore notAfter
  constructor
  · exact Date.isValid_ofDays _
  · exact year.1
  · exact year.2
  · simp only [localAt, Local.ofSeconds]
    omega
  · simp only [localAt, Local.ofSeconds]
    omega
  · simp only [localAt, Local.ofSeconds]
    omega
  · exact t.nanos_lt
  · intro isLeap
    have last := leap isLeap
    simp only [localAt, Local.ofSeconds]
    omega

/-- A stored timestamp is read back as the same instant, to the microsecond. -/
theorem ofText?_stored {t : Timestamp} {zone : Offset} (storable : t.Storable zone)
    (minutes : zone.seconds % 60 = 0) :
    Timestamp.ofText? (t.stored zone) zone = some (t.toMicros zone) := by
  have proper := isProper_localAt storable minutes
  have stored : t.stored zone = (t.localAt zone).text := rfl
  have seconds : (t.localAt zone).toMicros.toSeconds - zone.seconds = t.seconds := by
    have same : (t.localAt zone).toMicros.toSeconds = t.seconds + zone.seconds :=
      toSeconds_ofSeconds _ _
    omega
  rw [stored, Timestamp.ofText?, (Local.trimmed_text _).trimChars_eq, Local.ofRfc3339?_text proper,
    Local.ofChars?_text proper]
  have nanos : (t.localAt zone).toMicros.nanos < 2 * nanosPerSecond := (t.toMicros zone).nanos_lt
  simp only [Option.bind_eq_bind, Option.bind_some, ofLocal?, seconds]
  rw [dif_pos nanos, if_pos]
  · rfl
  · simpa [InRange] using storable.universal

end Timestamp

end RecordMapper.Calendar
