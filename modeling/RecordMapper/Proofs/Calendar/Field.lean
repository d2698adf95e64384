import RecordMapper.Config
import RecordMapper.Proofs.Conversion
import RecordMapper.Proofs.Entity.Schema
/-! # Timestamp fields

A configured zone is one of whole minutes (`Config.zone_minutes`).  What a timestamp field stores in
such a zone, it reads back as the same instant without the digits below the microsecond, as long as
date and time are in the years of the calendar (`Timestamp.field_reads_back`). -/
set_option autoImplicit false
namespace RecordMapper

open Calendar (Local Offset Timestamp nanosPerSecond yearMax yearMin)

/-! ## Configured zones -/

namespace Calendar.Offset

theorem distance_minutes {cs : List Char} {n : Nat} (read : distance cs = .ok n) : n % 60 = 0 := by
  rw [distance] at read
  obtain ⟨⟨h, h', rest⟩, -, read⟩ := ok_of_bind_ok read
  obtain ⟨⟨m, m', _⟩, -, read⟩ := ok_of_bind_ok read
  dsimp only at read
  split at read
  · cases read
  · obtain rfl := Except.ok.inj read
    omega

theorem signed_minutes {cs : List Char} {n : Int} (read : signed cs = .ok n) : n % 60 = 0 := by
  cases cs with
  | nil => cases read
  | cons c rest =>
      rw [signed] at read
      cases far : distance rest with
      | error fault =>
          rw [far] at read
          split at read
          · cases read
          · split at read <;> cases read
      | ok distance =>
          have minutes := distance_minutes far
          rw [far] at read
          split at read
          · obtain rfl : (distance : Int) = n := Except.ok.inj read
            omega
          · split at read
            · obtain rfl : -(distance : Int) = n := Except.ok.inj read
              omega
            · cases read

theorem ofText_minutes {s : String} {zone : Offset} (read : ofText s = .ok zone) :
    zone.seconds % 60 = 0 := by
  rw [ofText] at read
  obtain ⟨seconds, signed, read⟩ := ok_of_bind_ok read
  have minutes := signed_minutes signed
  rw [ofSeconds?] at read
  split at read
  · next found =>
      split at found
      · obtain rfl := Option.some.inj found
        obtain rfl := Except.ok.inj read
        exact minutes
      · cases found
  · cases read

end Calendar.Offset

theorem Config.zone_minutes {config : Config} {zone : Offset} (configured : config.zone = .ok zone) :
    zone.seconds % 60 = 0 := by
  rw [Config.zone] at configured
  split at configured
  · obtain rfl := Except.ok.inj configured
    rfl
  · cases read : Offset.ofText (Text.trim config.timezone) with
    | error fault =>
        rw [read] at configured
        cases configured
    | ok offset =>
        rw [read] at configured
        obtain rfl := Except.ok.inj configured
        exact Offset.ofText_minutes read

/-! ## Instants in the years of the calendar -/

namespace Calendar.Timestamp

/-- Clocks at `zone` show a year of the calendar. -/
def Dated (t : Timestamp) (zone : Offset) : Prop :=
  yearMin ≤ (t.localAt zone).date.year ∧ (t.localAt zone).date.year ≤ yearMax

instance (t : Timestamp) (zone : Offset) : Decidable (t.Dated zone) :=
  inferInstanceAs (Decidable (_ ∧ _))

theorem Dated.inRange {t : Timestamp} {zone : Offset} (dated : t.Dated zone) :
    InRange (t.seconds + zone.seconds) := by
  obtain ⟨first, last⟩ := Date.ofDays_bounds_of_year dated.1 dated.2
  constructor
  · unfold secondsMin
    omega
  · unfold secondsMax
    omega

/-- An instant is one of the calendar if its date in universal time is. -/
theorem storable_of_dated {t : Timestamp} {zone : Offset} (universal : t.Dated .utc)
    (zoned : t.Dated zone) (leap : nanosPerSecond ≤ t.nanos → t.seconds % 60 = 59) :
    t.Storable zone where
  universal := by
    have inRange := universal.inRange
    rwa [show Offset.utc.seconds = 0 from rfl, Int.add_zero] at inRange
  zoned := zoned.inRange
  leap := leap

end Calendar.Timestamp

/-! ## Storing and reading -/

theorem Value.toStorage_timestamp (t : Timestamp) (zone : Offset) :
    (Value.timestamp t).toStorage .timestamp zone = .ok (.str (t.stored zone)) := rfl

theorem Cell.fromStorage_timestamp (s : String) (zone : Offset) :
    (Cell.str s).fromStorage .timestamp zone =
      .ok ((Timestamp.ofText? s zone).elim .null .timestamp) := rfl

/-- Every configured zone is one of whole minutes.  In such a zone the stored text of a timestamp, a
leap second at second 59 included, is read back as the same second, with the nanoseconds rounded down
to microseconds; and so it is if a timestamp field stores and reads it. -/
theorem Calendar.Timestamp.field_reads_back {zone : Offset} (minutes : zone.seconds % 60 = 0)
    {t : Timestamp} (universal : t.Dated .utc) (dated : t.Dated zone)
    (leap : nanosPerSecond ≤ t.nanos → t.seconds % 60 = 59) :
    (∀ (config : Config) (configured : Offset), config.zone = .ok configured →
        configured.seconds % 60 = 0) ∧
      ∃ read, Timestamp.ofText? (t.stored zone) zone = some read ∧
        read.seconds = t.seconds ∧ read.nanos = t.nanos / 1000 * 1000 ∧ read.offset = zone ∧
        ∃ cell, (Value.timestamp t).toStorage .timestamp zone = .ok cell ∧
          cell.fromStorage .timestamp zone = .ok (.timestamp read) := by
  have read := ofText?_stored (storable_of_dated universal dated leap) minutes
  refine ⟨fun config configured => Config.zone_minutes, t.toMicros zone, read, rfl, rfl, rfl, ?_⟩
  refine ⟨_, Value.toStorage_timestamp t zone, ?_⟩
  rw [Cell.fromStorage_timestamp, read]
  rfl

theorem Calendar.Timestamp.field_reads_back_leap :
    let zone : Offset := ⟨-19800, by decide⟩
    let t : Timestamp := ⟨-62167219201, 1123456789, by decide, ⟨3600, by decide⟩⟩
    zone.seconds % 60 = 0 ∧ t.Dated .utc ∧ t.Dated zone ∧
      (nanosPerSecond ≤ t.nanos → t.seconds % 60 = 59) ∧
      t.stored zone = "-0001-12-31 18:29:60.123456" ∧
      ∃ read, Timestamp.ofText? "-0001-12-31 18:29:60.123456" zone = some read ∧
        read.seconds = -62167219201 ∧ read.nanos = 1123456000 ∧ read.offset = zone ∧
        (Cell.str "-0001-12-31 18:29:60.123456").fromStorage .timestamp zone =
          .ok (.timestamp read) := by
  intro zone t
  have minutes : zone.seconds % 60 = 0 := rfl
  have universal : t.Dated .utc := by decide
  have dated : t.Dated zone := by decide
  have leap : nanosPerSecond ≤ t.nanos → t.seconds % 60 = 59 := by decide
  have stored : t.stored zone = "-0001-12-31 18:29:60.123456" := by decide +kernel
  have micros : t.nanos / 1000 * 1000 = 1123456000 := by decide
  obtain ⟨-, read, text, seconds, nanos, offset, cell, written, loaded⟩ :=
    field_reads_back minutes universal dated leap
  obtain rfl := Except.ok.inj written
  rw [stored] at text loaded
  rw [micros] at nanos
  exact ⟨minutes, universal, dated, leap, stored, read, text, seconds, nanos, offset, loaded⟩

end RecordMapper
