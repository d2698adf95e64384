import RecordMapper.Proofs.Calendar.Field
import RecordMapper.Proofs.Json.Depth
/-! # Cells that were written

Whatever value a cell was written from, the cell is one of those that a field reads and writes back as
they are (`Value.exists_paired`): these are paired with the values of the field's own variant, and
`Paired` says how.  For timestamps that takes a look at leap seconds, which are written like the second
behind them if they do not stand at the end of a minute (`Timestamp.exists_rewritten`). -/
set_option autoImplicit false
namespace RecordMapper

open Calendar (Offset Timestamp nanosPerSecond)

/-! ## Timestamps -/

namespace Calendar

namespace Local
variable {l k : Local}

theorem leapSecond_of_leap (leap : nanosPerSecond ≤ l.nanos) :
    l.leapSecond = (l.second + 1, l.nanos - nanosPerSecond) := if_pos leap

theorem leapSecond_of_ordinary (ordinary : ¬ nanosPerSecond ≤ l.nanos) :
    l.leapSecond = (l.second, l.nanos) := if_neg ordinary

theorem text_congr (date : l.date = k.date) (hour : l.hour = k.hour) (minute : l.minute = k.minute)
    (second : l.leapSecond.1 = k.leapSecond.1)
    (micros : l.leapSecond.2 / 1000 = k.leapSecond.2 / 1000) : l.text = k.text := by
  rw [text, text, clock, clock, date, hour, minute, second, micros]

/-- The digits below the microsecond are not written, so that it does not matter if they are dropped. -/
theorem text_toMicros (l : Local) : l.toMicros.text = l.text := by
  by_cases leap : nanosPerSecond ≤ l.nanos
  · have still : nanosPerSecond ≤ l.toMicros.nanos := by
      unfold nanosPerSecond toMicros at *
      dsimp only
      omega
    have shown := leapSecond_of_leap leap
    have shown' := leapSecond_of_leap still
    refine text_congr rfl rfl rfl ?_ ?_
    · rw [shown, shown']
      rfl
    · rw [shown, shown']
      unfold nanosPerSecond toMicros
      dsimp only
      omega
  · have still : ¬ nanosPerSecond ≤ l.toMicros.nanos := by
      unfold nanosPerSecond toMicros at *
      dsimp only
      omega
    have shown := leapSecond_of_ordinary leap
    have shown' := leapSecond_of_ordinary still
    refine text_congr rfl rfl rfl ?_ ?_
    · rw [shown, shown']
      rfl
    · rw [shown, shown']
      unfold toMicros
      dsimp only
      omega

end Local

namespace Timestamp
variable {t : Timestamp} {zone : Offset}

theorem stored_toMicros (t : Timestamp) (zone : Offset) :
    (t.toMicros zone).stored zone = t.stored zone :=
  Local.text_toMicros (t.localAt zone)

/-- A leap second inside a minute, as the second behind it. -/
def carried (t : Timestamp) : Timestamp where
  seconds := t.seconds + 1
  nanos := t.nanos - nanosPerSecond
  nanos_lt := Nat.lt_of_le_of_lt (Nat.sub_le ..) t.nanos_lt
  offset := t.offset

theorem stored_carried (minutes : zone.seconds % 60 = 0) (leap : nanosPerSecond ≤ t.nanos)
    (inside : t.seconds % 60 ≠ 59) : t.carried.stored zone = t.stored zone := by
  have nanos := t.nanos_lt
  have ordinary : ¬ nanosPerSecond ≤ (t.carried.localAt zone).nanos := by
    show ¬ nanosPerSecond ≤ t.nanos - nanosPerSecond
    unfold nanosPerSecond at nanos leap ⊢
    omega
  have day : (t.seconds + 1 + zone.seconds) / 86400 = (t.seconds + zone.seconds) / 86400 := by omega
  have shown := Local.leapSecond_of_ordinary ordinary
  have shown' : (t.localAt zone).leapSecond = _ := Local.leapSecond_of_leap leap
  refine Local.text_congr ?_ ?_ ?_ ?_ ?_
  · simp only [localAt, carried, Local.ofSeconds, day]
  · simp only [localAt, carried, Local.ofSeconds]
    omega
  · simp only [localAt, carried, Local.ofSeconds]
    omega
  · rw [shown, shown']
    simp only [localAt, carried, Local.ofSeconds]
    omega
  · rw [shown, shown']
    rfl

/-- The second behind a leap second inside a minute is in the same minute, and so in the calendar. -/
theorem storable_carried (minutes : zone.seconds % 60 = 0) (universal : t.Dated .utc)
    (dated : t.Dated zone) (inside : t.seconds % 60 ≠ 59) (leap : nanosPerSecond ≤ t.nanos) :
    t.carried.Storable zone := by
  have first := universal.inRange
  have second := dated.inRange
  have last : secondsMax % 60 = 59 := by decide
  rw [show Offset.utc.seconds = 0 from rfl, Int.add_zero] at first
  unfold InRange at first second
  constructor
  · exact ⟨by simp only [carried]; omega, by simp only [carried]; omega⟩
  · exact ⟨by simp only [carried]; omega, by simp only [carried]; omega⟩
  · intro again
    have nanos := t.nanos_lt
    simp only [carried] at again
    unfold nanosPerSecond at again nanos leap
    omega

/-- A stored timestamp is read as one that is stored in the same way. -/
theorem exists_rewritten (minutes : zone.seconds % 60 = 0) (universal : t.Dated .utc)
    (dated : t.Dated zone) :
    ∃ read, Timestamp.ofText? (t.stored zone) zone = some read ∧ read.stored zone = t.stored zone := by
  by_cases stray : nanosPerSecond ≤ t.nanos ∧ t.seconds % 60 ≠ 59
  · obtain ⟨leap, inside⟩ := stray
    have storable := storable_carried minutes universal dated inside leap
    refine ⟨t.carried.toMicros zone, ?_, ?_⟩
    · rw [← stored_carried minutes leap inside, ofText?_stored storable minutes]
    · rw [stored_toMicros, stored_carried minutes leap inside]
  · have storable := storable_of_dated universal dated fun leap =>
      Classical.not_not.mp fun inside => stray ⟨leap, inside⟩
    exact ⟨t.toMicros zone, ofText?_stored storable minutes, stored_toMicros t zone⟩

end Timestamp

end Calendar

/-! ## Cells and values -/

def Value.kind? : Value → Option Kind
  | .null => none
  | .bool _ => some .bool
  | .int _ => some .int
  | .float _ => some .float
  | .str _ => some .string
  | .timestamp _ => some .timestamp
  | .json _ => some .structured

/-- The cells and values of a field that are read and written as each other. -/
inductive Paired (zone : Offset) : Kind → Cell → Value → Prop
  | null (kind : Kind) : Paired zone kind .null .null
  | int (n : Int64) : Paired zone .int (.int n) (.int n)
  | float (x : Float) : Paired zone .float (.float x) (.float x)
  | bool (b : Bool) : Paired zone .bool (Cell.ofBool b) (.bool b)
  | str (s : String) : Paired zone .string (.str s) (.str s)
  | timestamp (t : Timestamp) (read : Timestamp.ofText? (t.stored zone) zone = some t) :
      Paired zone .timestamp (.str (t.stored zone)) (.timestamp t)
  | json (document : Json) (read : Json.ofText document.text = .ok document) :
      Paired zone .structured (.str document.text) (.json document)

namespace Paired
variable {zone : Offset} {kind : Kind} {cell : Cell} {value : Value}

theorem writes (paired : Paired zone kind cell value) : value.toStorage kind zone = .ok cell := by
  cases paired <;> rfl

theorem reads (paired : Paired zone kind cell value) : cell.fromStorage kind zone = .ok value := by
  cases paired with
  | null | int | float | str => rfl
  | bool b => exact congrArg (fun b => Except.ok (Value.bool b)) (Cell.isTruthy_ofBool b)
  | timestamp t read => rw [Cell.fromStorage_timestamp, read]; rfl
  | json document read =>
      show Cell.document document.text (Json.ofText document.text) = _
      rw [read]
      rfl

theorem kind? (paired : Paired zone kind cell value) (present : value.isNull = false) :
    value.kind? = some kind := by
  cases paired with
  | null => cases present
  | int | float | bool | str | timestamp | json => rfl

end Paired

namespace Value

/-- The value is one whose text in a field of the kind can be read: a timestamp is one of the calendar,
and a document has whole numbers and is nested less than 128 levels deep. -/
structure Regular (zone : Offset) (kind : Kind) (value : Value) : Prop where
  dated : kind = .timestamp → ∀ t, value = .timestamp t → t.Dated .utc ∧ t.Dated zone
  whole : kind = .structured → value.toJson.IsWhole ∧ value.toJson.depth < 128

/-- Whatever is written into a field is paired with a value, and only `NULL` with `NULL`. -/
theorem exists_paired {zone : Offset} (minutes : zone.seconds % 60 = 0) {kind : Kind} {value : Value}
    (regular : value.Regular zone kind) {cell : Cell} (written : value.toStorage kind zone = .ok cell) :
    ∃ read, Paired zone kind cell read ∧ (read.isNull = true ↔ value.isNull = true) := by
  rw [toStorage.eq_def] at written
  by_cases null : value.isNull = true
  · rw [if_pos null] at written
    obtain rfl := Except.ok.inj written
    exact ⟨.null, .null kind, iff_of_true rfl null⟩
  rw [if_neg null] at written
  have present : ∀ read : Value, read.isNull = false → (read.isNull = true ↔ value.isNull = true) :=
    fun read shown => iff_of_false (by simp [shown]) null
  cases kind with
  | int =>
      cases converted : value.toInt with
      | error fault => rw [converted] at written; cases written
      | ok n =>
          rw [converted] at written
          obtain rfl := Except.ok.inj written
          exact ⟨.int n, .int n, present _ rfl⟩
  | float =>
      cases converted : value.toFloat with
      | error fault => rw [converted] at written; cases written
      | ok x =>
          rw [converted] at written
          obtain rfl := Except.ok.inj written
          exact ⟨.float x, .float x, present _ rfl⟩
  | bool =>
      obtain rfl := Except.ok.inj written
      exact ⟨.bool value.isTruthy, .bool _, present _ rfl⟩
  | string =>
      obtain rfl := Except.ok.inj written
      exact ⟨.str value.text, .str _, present _ rfl⟩
  | timestamp =>
      cases value with
      | timestamp t =>
          obtain rfl := Except.ok.inj written
          obtain ⟨universal, dated⟩ := regular.dated rfl t rfl
          obtain ⟨read, text, same⟩ := Calendar.Timestamp.exists_rewritten minutes universal dated
          rw [← same] at text ⊢
          exact ⟨.timestamp read, .timestamp read text, present _ rfl⟩
      | null | bool | int | float | str | json => cases written
  | structured =>
      obtain rfl := Except.ok.inj written
      obtain ⟨whole, shallow⟩ := regular.whole rfl
      have read := Json.ofText_text (whole.readable (Nat.le_of_lt_succ shallow))
      exact ⟨.json value.toJson, .json _ read, present _ rfl⟩

end Value

end RecordMapper
