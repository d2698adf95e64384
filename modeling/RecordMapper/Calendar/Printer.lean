import RecordMapper.Calendar.Timestamp
/-! # Writing points in time

Three forms share their parts.  `stored` is the form of database columns: date, time and six
decimals in a given zone.  `rfc3339` and `shown` carry the timestamp's own offset, to the minute
and to the second, and as many groups of three decimals as the fraction needs. -/
set_option autoImplicit false
namespace RecordMapper.Calendar

def padded (width n : Nat) : String :=
  let digits := Nat.toDigits 10 n
  String.ofList (List.replicate (width - digits.length) '0' ++ digits)

/-- Years of four digits are written without sign, all others with one. -/
def yearText (year : Int) : String :=
  if 0 ≤ year && year ≤ 9999 then padded 4 year.toNat
  else (if year < 0 then "-" else "+") ++ padded 4 year.natAbs

def Date.text (d : Date) : String :=
  yearText d.year ++ "-" ++ padded 2 d.month ++ "-" ++ padded 2 d.day

namespace Local

/-- The second of the minute, 60 in a leap second, and the nanoseconds within it. -/
def leapSecond (l : Local) : Nat × Nat :=
  if nanosPerSecond ≤ l.nanos then (l.second + 1, l.nanos - nanosPerSecond) else (l.second, l.nanos)

def clock (l : Local) : String :=
  padded 2 l.hour ++ ":" ++ padded 2 l.minute ++ ":" ++ padded 2 l.leapSecond.1

def fraction (l : Local) : String :=
  let nanos := l.leapSecond.2
  if nanos = 0 then ""
  else if nanos % 1000000 = 0 then "." ++ padded 3 (nanos / 1000000)
  else if nanos % 1000 = 0 then "." ++ padded 6 (nanos / 1000)
  else "." ++ padded 9 nanos

end Local

namespace Offset

def sign (o : Offset) : String := if o.seconds < 0 then "-" else "+"

def toMinutes (o : Offset) : String :=
  let minutes := (o.seconds.natAbs + 30) / 60
  o.sign ++ padded 2 (minutes / 60) ++ ":" ++ padded 2 (minutes % 60)

def exact (o : Offset) : String :=
  let n := o.seconds.natAbs
  o.sign ++ padded 2 (n / 3600) ++ ":" ++ padded 2 (n / 60 % 60) ++
    (if n % 60 = 0 then "" else ":" ++ padded 2 (n % 60))

end Offset

namespace Timestamp

/-- Date and time in `zone` with six decimals; digits below the microsecond are dropped. -/
def stored (t : Timestamp) (zone : Offset) : String :=
  let l := t.localAt zone
  l.date.text ++ " " ++ l.clock ++ "." ++ padded 6 (l.leapSecond.2 / 1000)

def rfc3339 (t : Timestamp) : String :=
  let l := t.localAt t.offset
  l.date.text ++ "T" ++ l.clock ++ l.fraction ++ t.offset.toMinutes

def shown (t : Timestamp) : String :=
  let l := t.localAt t.offset
  l.date.text ++ "T" ++ l.clock ++ l.fraction ++ t.offset.exact

end Timestamp

end RecordMapper.Calendar
