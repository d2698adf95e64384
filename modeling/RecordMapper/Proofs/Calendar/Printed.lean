import RecordMapper.Proofs.Calendar.Precision
/-! # Points in time and their texts

The text of a point in time shows a date, a time and an offset to the minute.  A leap second is shown as
the second behind the one it stands in, so that two points in time have one text if and only if they are
shown alike (`Timestamp.rfc3339_eq_iff`), provided that leap seconds end a minute, as they do in all points
in time that were read (`Timestamp.readable_of_ofText?`).  Of points in time with offsets of whole minutes,
which every text has, only the same one is shown alike (`Timestamp.alike_iff`). -/
set_option autoImplicit false
namespace RecordMapper.Calendar

/-! ## What a text shows -/

theorem Offset.written_toMinutes {offset : Offset} (minutes : offset.seconds % 60 = 0) :
    Offset.Written offset.toMinutes offset := by
  obtain ⟨seconds, low, high⟩ := offset
  dsimp only at minutes
  have rounded : (seconds.natAbs + 30) / 60 = seconds.natAbs / 60 := by omega
  have hours : seconds.natAbs / 60 / 60 < 24 := by omega
  have rest : seconds.natAbs / 60 % 60 < 60 := Nat.mod_lt _ (by decide)
  rw [toMinutes]
  dsimp only
  rw [rounded, sign]
  by_cases west : seconds < 0
  · have value : -(((seconds.natAbs / 60 / 60 : Nat) : Int) * 3600 +
        ((seconds.natAbs / 60 % 60 : Nat) : Int) * 60) = seconds := by omega
    rw [if_pos west]
    have written := Offset.Written.west _ _ hours rest
    simp only [value] at written
    exact written
  · have value : ((seconds.natAbs / 60 / 60 : Nat) : Int) * 3600 +
        ((seconds.natAbs / 60 % 60 : Nat) : Int) * 60 = seconds := by omega
    rw [if_neg west]
    have written := Offset.Written.east _ _ hours rest
    simp only [value] at written
    exact written

theorem fraction?_places {width n : Nat} (unit : Nat) (positive : width ≠ 0) (fits : n < 10 ^ width)
    (power : unit * 10 ^ width = 10 ^ 9) {rest : List Char} (next : NoDigit rest) :
    fraction? (("." ++ padded width n).toList ++ rest) = some (n * unit, rest) := by
  have length := length_padded ((Nat.length_toDigits_le_iff (by decide) (by omega)).mpr fits)
  have read := fraction?_digits (isDigit_padded width n) (padded_ne_nil width n) next
  rw [ofDigits_padded, length, ← power, ← Nat.mul_assoc,
    Nat.mul_div_cancel _ (Nat.pow_pos (by decide))] at read
  rw [String.toList_append]
  exact read

theorem Local.fraction?_fraction {l : Local} (small : l.leapSecond.2 < nanosPerSecond) {rest : List Char}
    (next : NoDigit rest) (none : Calendar.fraction? rest = some (0, rest)) :
    Calendar.fraction? (l.fraction.toList ++ rest) = some (l.leapSecond.2, rest) := by
  unfold nanosPerSecond at small
  rw [fraction]
  by_cases zero : l.leapSecond.2 = 0
  · rw [if_pos zero, zero]
    exact none
  rw [if_neg zero]
  by_cases millis : l.leapSecond.2 % 1000000 = 0
  · have whole : l.leapSecond.2 / 1000000 * 1000000 = l.leapSecond.2 := by omega
    rw [if_pos millis, fraction?_places 1000000 (by decide) (by omega) (by decide) next, whole]
  rw [if_neg millis]
  by_cases micros : l.leapSecond.2 % 1000 = 0
  · have whole : l.leapSecond.2 / 1000 * 1000 = l.leapSecond.2 := by omega
    rw [if_pos micros, fraction?_places 1000 (by decide) (by omega) (by decide) next, whole]
  · rw [if_neg micros, fraction?_places 1 (by decide) (by omega) (by decide) next, Nat.mul_one]

theorem Offset.exists_toMinutes (offset : Offset) :
    ∃ sign rest, offset.toMinutes.toList = sign :: rest ∧ (sign = '+' ∨ sign = '-') := by
  rw [toMinutes, sign]
  split
  · exact ⟨'-', _, by simp only [String.toList_append]; rfl, .inr rfl⟩
  · exact ⟨'+', _, by simp only [String.toList_append]; rfl, .inl rfl⟩

/-- The date and the time that a text shows, and what is written behind them. -/
def shown? (cs : List Char) : Option (Date × (Nat × Nat) × (Nat × Nat) × List Char) := do
  let (year, cs) ← year? cs
  let cs ← after? '-' cs
  let (month, cs) ← fixed? 2 cs
  let cs ← after? '-' cs
  let (day, cs) ← fixed? 2 cs
  let cs ← after? 'T' cs
  let (hour, cs) ← fixed? 2 cs
  let cs ← after? ':' cs
  let (minute, cs) ← fixed? 2 cs
  let cs ← after? ':' cs
  let (second, cs) ← fixed? 2 cs
  let (fraction, cs) ← fraction? cs
  some (⟨year, month, day⟩, (hour, minute), (second, fraction), cs)

namespace Timestamp

def Readable (t : Timestamp) : Prop := nanosPerSecond ≤ t.nanos → (t.localAt t.offset).second = 59

/-- The two show the same date and time, and their offsets are the same to the minute. -/
structure Alike (s t : Timestamp) : Prop where
  clock : s.localAt s.offset = t.localAt t.offset
  minutes : s.offset.toMinutes = t.offset.toMinutes

theorem leapSecond_lt (t : Timestamp) (offset : Offset) :
    (t.localAt offset).leapSecond.1 < 100 ∧ (t.localAt offset).leapSecond.2 < nanosPerSecond := by
  have nanos := t.nanos_lt
  have second : (t.localAt offset).second < 60 := by
    simp only [localAt, Local.ofSeconds]
    omega
  have same : (t.localAt offset).nanos = t.nanos := rfl
  rw [Local.leapSecond, same]
  split
  · dsimp only
    omega
  · dsimp only
    omega

/-- Date and time are what the text shows, in whatever year. -/
theorem shown?_rfc3339 (t : Timestamp) :
    shown? t.rfc3339.toList =
      let l := t.localAt t.offset
      some (l.date, (l.hour, l.minute), l.leapSecond, t.offset.toMinutes.toList) := by
  have valid : (t.localAt t.offset).date.IsValid := Date.isValid_ofDays _
  have hour : (t.localAt t.offset).hour < 100 := by
    simp only [localAt, Local.ofSeconds]
    omega
  have minute : (t.localAt t.offset).minute < 100 := by
    simp only [localAt, Local.ofSeconds]
    omega
  obtain ⟨second, small⟩ := t.leapSecond_lt t.offset
  have fraction : fraction? ((t.localAt t.offset).fraction.toList ++ t.offset.toMinutes.toList) =
      some ((t.localAt t.offset).leapSecond.2, t.offset.toMinutes.toList) := by
    obtain ⟨sign, rest, written, rfl | rfl⟩ := t.offset.exists_toMinutes
    · rw [written]
      exact Local.fraction?_fraction small (noDigit_cons _ (by decide)) rfl
    · rw [written]
      exact Local.fraction?_fraction small (noDigit_cons _ (by decide)) rfl
  have shape : t.rfc3339.toList = (t.localAt t.offset).date.text.toList ++ 'T' ::
      ((clockText (t.localAt t.offset).hour (t.localAt t.offset).minute
        (t.localAt t.offset).leapSecond.1).toList ++
          ((t.localAt t.offset).fraction.toList ++ t.offset.toMinutes.toList)) := by
    simp [rfc3339, Local.clock, clockText]
  rw [shape, Date.toList_text, List.append_assoc, shown?, List.cons_append,
    year?_yearText _ _ (noDigit_cons _ (by decide))]
  simp only [Option.bind_eq_bind, Option.bind_some, after?_self, fixed?_padded_two valid.month_lt,
    List.append_assoc, List.cons_append, fixed?_padded_two valid.day_lt, toList_clockText,
    fixed?_padded_two hour, fixed?_padded_two minute, fixed?_padded_two second, fraction]

/-- A leap second is shown as the sixtieth, and no other second is. -/
theorem Readable.leap_iff {t : Timestamp} (readable : t.Readable) :
    nanosPerSecond ≤ t.nanos ↔ (t.localAt t.offset).leapSecond.1 = 60 := by
  have same : (t.localAt t.offset).nanos = t.nanos := rfl
  have second : (t.localAt t.offset).second < 60 := by
    simp only [localAt, Local.ofSeconds]
    omega
  rw [Local.leapSecond, same]
  constructor
  · intro leap
    rw [if_pos leap]
    exact congrArg (· + 1) (readable leap)
  · intro shown
    by_contra ordinary
    rw [if_neg ordinary] at shown
    exact absurd shown (Nat.ne_of_lt second)

/-- The second and the nanoseconds are told by what is shown of them. -/
theorem second_of_leapSecond {s t : Timestamp} (readable : s.Readable) (readable' : t.Readable)
    (same : (s.localAt s.offset).leapSecond = (t.localAt t.offset).leapSecond) :
    (s.localAt s.offset).second = (t.localAt t.offset).second ∧
      (s.localAt s.offset).nanos = (t.localAt t.offset).nanos := by
  have leap : nanosPerSecond ≤ s.nanos ↔ nanosPerSecond ≤ t.nanos := by
    rw [readable.leap_iff, readable'.leap_iff, same]
  have nanos : (s.localAt s.offset).nanos = s.nanos := rfl
  have nanos' : (t.localAt t.offset).nanos = t.nanos := rfl
  rw [Local.leapSecond, Local.leapSecond, nanos, nanos'] at same
  rw [nanos, nanos']
  by_cases late : nanosPerSecond ≤ s.nanos
  · have late' := leap.mp late
    rw [if_pos late, if_pos late'] at same
    obtain ⟨seconds, fractions⟩ := Prod.mk.inj same
    omega
  · rw [if_neg late, if_neg fun later => late (leap.mpr later)] at same
    exact Prod.mk.inj same

/-- Two points in time have one text if and only if they are shown alike. -/
theorem rfc3339_eq_iff {s t : Timestamp} (readable : s.Readable) (readable' : t.Readable) :
    s.rfc3339 = t.rfc3339 ↔ s.Alike t := by
  constructor
  · intro same
    have shown := shown?_rfc3339 s
    rw [same, shown?_rfc3339 t] at shown
    obtain ⟨date, ⟨hour, minute⟩, seconds, offset⟩ : _ ∧ (_ ∧ _) ∧ _ ∧ _ := by
      simpa only [Option.some.injEq, Prod.mk.injEq] using shown.symm
    obtain ⟨second, nanos⟩ := second_of_leapSecond readable readable' seconds
    refine ⟨?_, String.toList_inj.mp offset⟩
    generalize s.localAt s.offset = l at *
    generalize t.localAt t.offset = k at *
    obtain ⟨_, _, _, _, _⟩ := l
    obtain ⟨_, _, _, _, _⟩ := k
    simp_all
  · rintro ⟨clock, minutes⟩
    rw [rfc3339, rfc3339, clock, minutes]

/-- With offsets of whole minutes, only the same point in time with the same offset is shown alike. -/
theorem alike_iff {s t : Timestamp} (minutes : s.offset.seconds % 60 = 0)
    (minutes' : t.offset.seconds % 60 = 0) :
    s.Alike t ↔ s.sameInstant t = true ∧ s.offset = t.offset := by
  rw [sameInstant, Bool.and_eq_true, beq_iff_eq, beq_iff_eq]
  constructor
  · rintro ⟨clock, shown⟩
    have read := (Offset.written_toMinutes minutes).zone?
    rw [shown, (Offset.written_toMinutes minutes').zone?] at read
    have offset := (Option.some.inj read).symm
    have seconds := congrArg Local.toSeconds clock
    rw [localAt, localAt, toSeconds_ofSeconds, toSeconds_ofSeconds, offset] at seconds
    exact ⟨⟨by omega, congrArg Local.nanos clock⟩, offset⟩
  · rintro ⟨⟨seconds, nanos⟩, offset⟩
    exact ⟨by rw [localAt, localAt, seconds, nanos, offset], by rw [offset]⟩

end Timestamp

/-! ## What a text is read as -/

theorem fraction?_lt {cs rest : List Char} {n : Nat} (read : fraction? cs = some (n, rest)) :
    n < nanosPerSecond := by
  unfold fraction? at read
  split at read
  · rename_i behind
    by_cases none : (Decimal.splitDigits behind).1.isEmpty
    · simp [none] at read
    · obtain ⟨rfl, -⟩ : Decimal.ofDigits (((Decimal.splitDigits behind).1 ++
          List.replicate 9 '0').take 9) = n ∧ _ := by
        simpa only [none, Bool.false_eq_true, if_false, Option.some.injEq, Prod.mk.injEq] using read
      have digits : ∀ c ∈ ((Decimal.splitDigits behind).1 ++ List.replicate 9 '0').take 9,
          c.isDigit = true := by
        intro c member
        rcases List.mem_append.mp (List.mem_of_mem_take member) with digit | zero
        · exact List.mem_takeWhile_imp digit
        · rw [List.eq_of_mem_replicate zero]
          decide
      have length : (((Decimal.splitDigits behind).1 ++ List.replicate 9 '0').take 9).length = 9 := by
        rw [List.length_take, List.length_append, List.length_replicate]
        omega
      have bound := Decimal.ofDigits_lt digits
      rw [length] at bound
      exact bound
  · obtain ⟨rfl, -⟩ := Prod.mk.inj (Option.some.inj read)
    decide

theorem Offset.eq_of_ofSeconds? {n : Int} {offset : Offset} (read : Offset.ofSeconds? n = some offset) :
    offset.seconds = n := by
  unfold Offset.ofSeconds? at read
  split at read
  · cases read
    rfl
  · cases read

theorem zone?_minutes {cs : List Char} {offset : Offset} (read : zone? cs = some offset) :
    offset.seconds % 60 = 0 := by
  cases cs with
  | nil => cases read
  | cons c rest =>
      rw [zone?] at read
      split at read
      · split at read
        · cases read
          rfl
        · cases read
      · split at read
        · simp only [Option.bind_eq_bind, Option.bind_eq_some_iff] at read
          obtain ⟨⟨hour, _⟩, -, behind, -, ⟨minute, last⟩, -, read⟩ := read
          dsimp only at read
          split at read
          · have seconds := Offset.eq_of_ofSeconds? read
            split at seconds <;> omega
          · cases read
        · cases read

theorem Local.leap_of_ofParts? {year : Int} {month day hour minute second fraction : Nat} {l : Local}
    (small : fraction < nanosPerSecond)
    (read : Local.ofParts? year month day hour minute second fraction = some l) :
    nanosPerSecond ≤ l.nanos → l.second = 59 := by
  unfold Local.ofParts? at read
  dsimp only at read
  split at read
  · split at read
    · cases read
      intro
      rfl
    · cases read
      intro leap
      exact absurd small (Nat.not_lt.mpr leap)
  · cases read

/-- Date and time of a text are a leap second only at the end of a minute. -/
theorem Local.leap_of_ofChars? {cs : List Char} {l : Local} (read : Local.ofChars? cs = some l) :
    nanosPerSecond ≤ l.nanos → l.second = 59 := by
  rw [Local.ofChars?] at read
  simp only [Option.bind_eq_bind, Option.bind_eq_some_iff] at read
  obtain ⟨⟨year, _⟩, -, _, -, ⟨month, _⟩, -, _, -, ⟨day, behind⟩, -, read⟩ := read
  dsimp only at read
  split at read
  · exact Local.leap_of_ofParts? (by decide) read
  · simp only [Option.bind_eq_some_iff] at read
    obtain ⟨⟨hour, _⟩, -, _, -, ⟨minute, last⟩, -, ⟨second, fraction⟩, seconds, read⟩ := read
    refine Local.leap_of_ofParts? ?_ read
    cases last with
    | nil =>
        cases seconds
        decide
    | cons c last =>
        simp only [seconds?, Option.bind_eq_bind, Option.bind_eq_some_iff] at seconds
        obtain ⟨_, -, ⟨_, _⟩, -, ⟨_, _⟩, fractions, ended⟩ := seconds
        dsimp only at ended
        split at ended
        · cases ended
          exact fraction?_lt fractions
        · cases ended

namespace Timestamp

theorem readable_of_ofLocal? {l : Local} {offset : Offset} {t : Timestamp}
    (leap : nanosPerSecond ≤ l.nanos → l.second = 59) (read : ofLocal? l offset = some t) :
    t.Readable ∧ t.offset = offset := by
  unfold ofLocal? at read
  dsimp only at read
  split at read
  · split at read
    · cases read
      refine ⟨?_, rfl⟩
      intro late
      have last := leap late
      simp only [localAt, Local.ofSeconds, Local.toSeconds]
      omega
    · cases read
  · cases read

theorem readable_of_ofRfc3339? {cs : List Char} {t : Timestamp} (read : ofRfc3339? cs = some t) :
    t.Readable ∧ t.offset.seconds % 60 = 0 := by
  rw [ofRfc3339?] at read
  simp only [Option.bind_eq_bind, Option.bind_eq_some_iff] at read
  obtain ⟨⟨year, _⟩, -, _, -, ⟨month, _⟩, -, _, -, ⟨day, _⟩, -, _, -, ⟨hour, _⟩, -, _, -,
    ⟨minute, _⟩, -, _, -, ⟨second, _⟩, -, ⟨fraction, _⟩, fractions, offset, zoned, l, parts, read⟩ := read
  have leap := Local.leap_of_ofParts? (fraction?_lt fractions) parts
  obtain ⟨readable, rfl⟩ := readable_of_ofLocal? leap read
  exact ⟨readable, zone?_minutes zoned⟩

/-- A point in time that is read has the given offset, or one of whole minutes. -/
theorem readable_of_ofText? {s : String} {zone : Offset} {t : Timestamp}
    (read : Timestamp.ofText? s zone = some t) :
    t.Readable ∧ (t.offset = zone ∨ t.offset.seconds % 60 = 0) := by
  unfold Timestamp.ofText? at read
  dsimp only at read
  split at read
  · rename_i found
    cases read
    obtain ⟨readable, minutes⟩ := readable_of_ofRfc3339? found
    exact ⟨readable, .inr minutes⟩
  · simp only [Option.bind_eq_bind, Option.bind_eq_some_iff] at read
    obtain ⟨l, parts, read⟩ := read
    obtain ⟨readable, offset⟩ := readable_of_ofLocal? (Local.leap_of_ofChars? parts) read
    exact ⟨readable, .inl offset⟩

end Timestamp

end RecordMapper.Calendar
