import RecordMapper.Calendar.Date
/-! # Points in time

A `Timestamp` is an instant together with the offset it is shown in.  The instant is counted in
seconds from the start of 1970 and in nanoseconds; from `10 ^ 9` nanoseconds on it lies in a leap
second, the second after the one counted.  Two timestamps are the same point in time if their
instants are equal, whatever their offsets. -/
set_option autoImplicit false
namespace RecordMapper.Calendar

/-- A distance from universal time, of less than a day; east is positive. -/
structure Offset where
  seconds : Int
  bounded : -86400 < seconds ∧ seconds < 86400
deriving DecidableEq

namespace Offset

def utc : Offset := ⟨0, by decide⟩

def ofSeconds? (seconds : Int) : Option Offset :=
  if h : -86400 < seconds ∧ seconds < 86400 then some ⟨seconds, h⟩ else none

end Offset

def nanosPerSecond : Nat := 1000000000

structure Timestamp where
  seconds : Int
  nanos : Nat
  nanos_lt : nanos < 2 * nanosPerSecond
  offset : Offset
deriving DecidableEq

structure Local where
  date : Date
  hour : Nat
  minute : Nat
  second : Nat
  nanos : Nat
deriving DecidableEq, Repr

namespace Local

def ofSeconds (seconds : Int) (nanos : Nat) : Local :=
  let clock := (seconds % 86400).toNat
  { date := Date.ofDays (seconds / 86400)
    hour := clock / 3600
    minute := clock / 60 % 60
    second := clock % 60
    nanos := nanos }

def toSeconds (l : Local) : Int :=
  l.date.toDays * 86400 + (l.hour * 3600 + l.minute * 60 + l.second : Nat)

end Local

def yearMin : Int := -262143
def yearMax : Int := 262142

namespace Timestamp

def secondsMin : Int := (Date.mk yearMin 1 1).toDays * 86400
def secondsMax : Int := (Date.mk yearMax 12 31).toDays * 86400 + 86399

def sameInstant (s t : Timestamp) : Bool := s.seconds == t.seconds && s.nanos == t.nanos

def localAt (t : Timestamp) (offset : Offset) : Local :=
  Local.ofSeconds (t.seconds + offset.seconds) t.nanos

/-- The point in time at which clocks at `offset` show `l`, unless it lies outside the range of
instants. -/
def ofLocal? (l : Local) (offset : Offset) : Option Timestamp :=
  let seconds := l.toSeconds - offset.seconds
  if h : l.nanos < 2 * nanosPerSecond then
    if secondsMin ≤ seconds && seconds ≤ secondsMax then some ⟨seconds, l.nanos, h, offset⟩
    else none
  else none

end Timestamp

end RecordMapper.Calendar
