import RecordMapper.Decimal.Shortest
import RecordMapper.Text.Blank
/-! # Numbers written in text

The literals accepted for a number, without any blank around them.  An integer is an optional sign
and ASCII digits, and has to fit in 64 bits.  A floating-point literal is an optional sign followed
by a name (`inf`, `infinity`, `nan`, in any case) or by digits with an optional point and exponent,
and denotes the double nearest to it. -/
set_option autoImplicit false
namespace RecordMapper.Decimal

def digitValue (c : Char) : Nat := c.toNat - '0'.toNat

def ofDigits (digits : List Char) : Nat :=
  digits.foldl (fun n c => 10 * n + digitValue c) 0

def splitDigits (cs : List Char) : List Char × List Char :=
  (cs.takeWhile Char.isDigit, cs.dropWhile Char.isDigit)

def splitSign : List Char → Bool × List Char
  | '-' :: rest => (true, rest)
  | '+' :: rest => (false, rest)
  | cs => (false, cs)

def integer? (cs : List Char) : Option Int :=
  let signed := splitSign cs
  if signed.2.isEmpty || !signed.2.all Char.isDigit then none
  else
    let n : Int := ofDigits signed.2
    some (if signed.1 then -n else n)

def int64? (s : String) : Option Int64 := do
  let n ← integer? s.toList
  if Int64.minValue.toInt ≤ n && n ≤ Int64.maxValue.toInt then some (Int64.ofInt n) else none

def infinity : Float := Float.ofBits 0x7FF0000000000000

def nan : Float := Float.ofBits 0x7FF8000000000000

/-- The double nearest to `mantissa * 10 ^ exponent`.  Every value from `10 ^ 310` on rounds to
infinity and every value below `10 ^ -330` to zero, so that a wild exponent costs nothing. -/
def nearest (mantissa : Nat) (exponent : Int) : Float :=
  let top := exponent + digitCount mantissa
  if mantissa = 0 || top < -330 then 0.0
  else if 310 < top then infinity
  else Float.ofScientific mantissa (exponent < 0) exponent.natAbs

inductive LiteralFault
  | empty
  | invalid
deriving DecidableEq, Repr

def LiteralFault.message : LiteralFault → String
  | .empty => "cannot parse float from empty string"
  | .invalid => "invalid float literal"

def exponentPart? : List Char → Option Int
  | [] => some 0
  | mark :: rest =>
    let signed := splitSign rest
    if (mark = 'e' || mark = 'E') && !signed.2.isEmpty && signed.2.all Char.isDigit then
      let n : Int := ofDigits signed.2
      some (if signed.1 then -n else n)
    else none

def unsigned? (cs : List Char) : Option Float :=
  let name := String.ofList (cs.map Char.toLower)
  if name = "inf" || name = "infinity" then some infinity
  else if name = "nan" then some nan
  else do
    let whole := splitDigits cs
    let fraction := match whole.2 with
      | '.' :: rest => splitDigits rest
      | rest => ([], rest)
    if whole.1.isEmpty && fraction.1.isEmpty then none
    else
      let exponent ← exponentPart? fraction.2
      some (nearest (ofDigits (whole.1 ++ fraction.1)) (exponent - fraction.1.length))

def float (s : String) : Except LiteralFault Float :=
  let signed := splitSign s.toList
  if s.isEmpty then .error .empty
  else match unsigned? signed.2 with
    | some x => .ok (if signed.1 then -x else x)
    | none => .error .invalid

end RecordMapper.Decimal
