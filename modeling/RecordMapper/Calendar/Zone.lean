import RecordMapper.Calendar.Timestamp
import RecordMapper.Decimal.Literal
import RecordMapper.Text.Blank
/-! # Fixed zones in text

An offset is a sign, two digits of hours, two digits of minutes below 60, and between the two any
number of colons and blanks.  What follows the minutes is not looked at. -/
set_option autoImplicit false
namespace RecordMapper.Calendar

inductive OffsetFault
  | tooShort
  | invalid
  | outOfRange
deriving DecidableEq, Repr

def OffsetFault.message : OffsetFault → String
  | .tooShort => "premature end of input"
  | .invalid => "input contains invalid characters"
  | .outOfRange => "input is out of range"

/-- The minus sign may be a hyphen or the mathematical sign. -/
def isMinus (c : Char) : Bool := c == '-' || c == '−'

/-- Two digits at the front.  A character of more than one byte is never too short for them. -/
def digitPair : List Char → Except OffsetFault (Nat × Nat × List Char)
  | [] => .error .tooShort
  | [c] => .error (if c.utf8Size = 1 then .tooShort else .invalid)
  | c :: d :: rest =>
    if c.isDigit && d.isDigit then .ok (Decimal.digitValue c, Decimal.digitValue d, rest)
    else .error .invalid

namespace Offset

def distance (cs : List Char) : Except OffsetFault Nat := do
  let (h, h', rest) ← digitPair cs
  let (m, m', _) ← digitPair (rest.dropWhile fun c => c == ':' || Text.isBlank c)
  if 6 ≤ m then .error .outOfRange else pure ((10 * h + h') * 3600 + (10 * m + m') * 60)

def signed (cs : List Char) : Except OffsetFault Int :=
  match cs with
  | [] => .error .tooShort
  | c :: rest =>
    if c = '+' then (distance rest).map fun n => (n : Int)
    else if isMinus c then (distance rest).map fun n => -(n : Int)
    else .error .invalid

def ofText (s : String) : Except OffsetFault Offset := do
  let seconds ← signed s.toList
  match ofSeconds? seconds with
  | some offset => pure offset
  | none => .error .outOfRange

end Offset

end RecordMapper.Calendar
