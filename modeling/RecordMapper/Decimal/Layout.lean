import RecordMapper.Decimal.Shortest
/-! # How a number is laid out

The digits of a number and the way they are written are separate decisions.  A `Layout` holds the
second kind; `Layout.render` selects the shortest digits and lays them out by it. -/
set_option autoImplicit false
namespace RecordMapper.Decimal

structure Layout where
  /-- The leading digit stands for `10 ^ e`; the number is written positionally for `e` from here
  on. -/
  plainFrom : Int
  /-- The number is written with an exponent for `e` from here on. -/
  plainBelow : Int
  /-- A whole number written positionally ends in `.0`. -/
  pointZero : Bool
  /-- An exponent that is not negative has a plus sign. -/
  plusSign : Bool
  tie : Tie
  nan : String
  infinity : String

def zeros (n : Nat) : String := String.ofList (List.replicate n '0')

def Layout.positional (layout : Layout) (digits : List Char) (e : Int) : String :=
  if e < 0 then "0." ++ zeros (-e - 1).toNat ++ String.ofList digits
  else
    let whole := e.toNat + 1
    if digits.length ≤ whole then
      String.ofList digits ++ zeros (whole - digits.length) ++
        (if layout.pointZero then ".0" else "")
    else String.ofList (digits.take whole) ++ "." ++ String.ofList (digits.drop whole)

def Layout.withExponent (layout : Layout) (digits : List Char) (e : Int) : String :=
  let fraction := digits.drop 1
  let point := if fraction.isEmpty then "" else "." ++ String.ofList fraction
  let sign := if e < 0 then "-" else if layout.plusSign then "+" else ""
  String.ofList (digits.take 1) ++ point ++ "e" ++ sign ++ toString e.natAbs

def Layout.decimal (layout : Layout) (d : Scientific) : String :=
  let digits := Nat.toDigits 10 d.coefficient
  let e := d.exponent + digits.length - 1
  if layout.plainFrom ≤ e && e < layout.plainBelow then layout.positional digits e
  else layout.withExponent digits e

/-- The text of `x`: its sign, and the fewest digits that identify it. -/
def Layout.render (layout : Layout) (x : Float) : String :=
  if x.isNaN then layout.nan
  else
    (if isNegative x then "-" else "") ++
      (if x.isInf then layout.infinity
        else layout.decimal ((Binary.ofFloat x).shortest layout.tie))

end RecordMapper.Decimal
