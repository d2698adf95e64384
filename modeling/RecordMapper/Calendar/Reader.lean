import RecordMapper.Calendar.Zone
/-! # Reading points in time

A text is read as RFC 3339 first, which carries its own offset, and otherwise as date and time in a
given zone.  The second form is tolerant: the time may be missing altogether or lack its seconds,
any number of blanks may stand before a number, and years beyond four digits need a sign.  Of a
fraction nine digits count.  Second 60 is the leap second of its minute. -/
set_option autoImplicit false
namespace RecordMapper.Calendar

def number? (most : Nat) (cs : List Char) : Option (Nat × List Char) :=
  let digits := (cs.take most).takeWhile Char.isDigit
  if digits.isEmpty then none else some (Decimal.ofDigits digits, cs.drop digits.length)

def fixed? (width : Nat) (cs : List Char) : Option (Nat × List Char) :=
  let digits := (cs.take width).takeWhile Char.isDigit
  if digits.length = width then some (Decimal.ofDigits digits, cs.drop width) else none

def after? (c : Char) : List Char → Option (List Char)
  | [] => none
  | d :: rest => if d = c then some rest else none

/-- A fraction of a second in nanoseconds: a point and digits, of which nine count, or nothing. -/
def fraction? : List Char → Option (Nat × List Char)
  | '.' :: rest =>
    let (digits, rest) := Decimal.splitDigits rest
    if digits.isEmpty then none
    else some (Decimal.ofDigits ((digits ++ List.replicate 9 '0').take 9), rest)
  | cs => some (0, cs)

def Local.ofParts? (year : Int) (month day hour minute second fraction : Nat) : Option Local :=
  let date : Date := ⟨year, month, day⟩
  if yearMin ≤ year && year ≤ yearMax && date.IsValid &&
      hour < 24 && minute < 60 && second ≤ 60 then
    some (if second = 60 then ⟨date, hour, minute, 59, fraction + nanosPerSecond⟩
      else ⟨date, hour, minute, second, fraction⟩)
  else none

/-! ## RFC 3339 -/

/-- The offset at the end of an RFC 3339 text: `Z`, or hours below 24 and minutes. -/
def zone? : List Char → Option Offset
  | [] => none
  | c :: rest =>
    if c = 'Z' || c = 'z' then if rest.isEmpty then some Offset.utc else none
    else if c = '+' || isMinus c then do
      let (hour, rest) ← fixed? 2 rest
      let rest ← after? ':' rest
      let (minute, rest) ← fixed? 2 rest
      let n : Int := hour * 3600 + minute * 60
      if rest.isEmpty && hour < 24 && minute < 60 then Offset.ofSeconds? (if c = '+' then n else -n)
      else none
    else none

def Timestamp.ofRfc3339? (cs : List Char) : Option Timestamp := do
  let (year, cs) ← fixed? 4 cs
  let cs ← after? '-' cs
  let (month, cs) ← fixed? 2 cs
  let cs ← after? '-' cs
  let (day, cs) ← fixed? 2 cs
  let cs ← after? 'T' cs <|> after? 't' cs <|> after? ' ' cs
  let (hour, cs) ← fixed? 2 cs
  let cs ← after? ':' cs
  let (minute, cs) ← fixed? 2 cs
  let cs ← after? ':' cs
  let (second, cs) ← fixed? 2 cs
  let (fraction, cs) ← fraction? cs
  let offset ← zone? cs
  let l ← Local.ofParts? year month day hour minute second fraction
  Timestamp.ofLocal? l offset

/-! ## Date and time in a zone -/

def year? (cs : List Char) : Option (Int × List Char) :=
  match Text.dropBlank cs with
  | '-' :: rest => (number? rest.length rest).map fun (n, cs) => (-(n : Int), cs)
  | '+' :: rest => (number? rest.length rest).map fun (n, cs) => ((n : Int), cs)
  | rest => (number? 4 rest).map fun (n, cs) => ((n : Int), cs)

def part? (cs : List Char) : Option (Nat × List Char) := number? 2 (Text.dropBlank cs)

def seconds? : List Char → Option (Nat × Nat)
  | [] => some (0, 0)
  | cs => do
    let cs ← after? ':' cs
    let (second, cs) ← part? cs
    let (fraction, cs) ← fraction? cs
    if cs.isEmpty then some (second, fraction) else none

def Local.ofChars? (cs : List Char) : Option Local := do
  let (year, cs) ← year? cs
  let cs ← after? '-' cs
  let (month, cs) ← part? cs
  let cs ← after? '-' cs
  let (day, cs) ← part? cs
  if cs.isEmpty then Local.ofParts? year month day 0 0 0 0
  else
    let (hour, cs) ← part? cs
    let cs ← after? ':' cs
    let (minute, cs) ← part? cs
    let (second, fraction) ← seconds? cs
    Local.ofParts? year month day hour minute second fraction

/-- The point in time that a text denotes; `zone` counts where the text has no offset. -/
def Timestamp.ofText? (s : String) (zone : Offset) : Option Timestamp :=
  let cs := Text.trimChars s.toList
  match Timestamp.ofRfc3339? cs with
  | some t => some t
  | none => do
    let l ← Local.ofChars? cs
    Timestamp.ofLocal? l zone

end RecordMapper.Calendar
