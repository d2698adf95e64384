import RecordMapper.Json.Basic
import RecordMapper.Json.Reader.Basic
/-! # Reading numbers

Digits are collected in a significand as long as it fits 64 bits; a whole number within its range
stays an integer.  Any other number is the significand, as a double, multiplied or divided once by
the power of ten: near the double that the text denotes, though not always the nearest one. -/
set_option autoImplicit false
namespace RecordMapper.Json.Reader

/-- The largest significand that is kept exactly. -/
def significandMax : Nat := 0xFFFFFFFFFFFFFFFF

def appendDigits (significand : Nat) : List UInt8 → Nat × Nat × List UInt8
  | [] => (significand, 0, [])
  | b :: rest =>
    let next := significand * 10 + digit b
    if isDigit b && next ≤ significandMax then
      let more := appendDigits next rest
      (more.1, more.2.1 + 1, more.2.2)
    else (significand, 0, b :: rest)

def powerOfTen (n : Nat) : Float := Float.ofScientific 1 false n

/-- Divides by `10 ^ n`, in steps that stay within the range of doubles. -/
def divideDown (x : Float) (n : Nat) : Float :=
  if n ≤ 308 then x / powerOfTen n
  else if x == 0.0 then x
  else divideDown (x / powerOfTen 308) (n - 308)
termination_by n

def scaled (negative : Bool) (significand : Nat) (exponent : Int) : Reader Number := fun rest =>
  let x := Float.ofNat significand
  let signed := fun (y : Float) => Number.float (if negative then -y else y)
  if exponent < 0 then .ok (signed (divideDown x exponent.natAbs), rest)
  else if exponent ≤ 308 then
    let y := x * powerOfTen exponent.toNat
    if y.isInf then .error ⟨.numberOutOfRange, rest⟩ else .ok (signed y, rest)
  else if significand = 0 then .ok (signed x, rest)
  else .error ⟨.numberOutOfRange, rest⟩

def exponentMax : Nat := 0x7FFFFFFF

/-- The digits of an exponent: its value, or the bytes left behind the digit with which it passes
`exponentMax`. -/
def exponentDigits (value : Nat) : List UInt8 → Except (List UInt8) (Nat × List UInt8)
  | [] => .ok (value, [])
  | b :: rest =>
    if isDigit b then
      let next := value * 10 + digit b
      if exponentMax < next then .error rest else exponentDigits next rest
    else .ok (value, b :: rest)

def exponentPart (negative : Bool) (significand : Nat) (exponent : Int) : Reader Number :=
  fun bytes =>
  let down := bytes.head? == some '-'.toUInt8
  let unsigned := if down || bytes.head? == some '+'.toUInt8 then bytes.drop 1 else bytes
  match unsigned with
  | [] => .error ⟨.endOfValue, []⟩
  | b :: rest =>
    if !isDigit b then .error ⟨.invalidNumber, rest⟩
    else match exponentDigits (digit b) rest with
      | .ok (value, rest) =>
        scaled negative significand (if down then exponent - value else exponent + value) rest
      | .error rest =>
        if significand != 0 && !down then .error ⟨.numberOutOfRange, rest⟩
        else .ok (.float (if negative then -0.0 else 0.0), rest.dropWhile isDigit)

def floatEnd (negative : Bool) (significand : Nat) (exponent : Int) : Reader Number
  | [] => scaled negative significand exponent []
  | b :: rest =>
    if b = 'e'.toUInt8 || b = 'E'.toUInt8 then exponentPart negative significand exponent rest
    else scaled negative significand exponent (b :: rest)

def fractionPart (negative : Bool) (significand : Nat) (exponent : Int) : Reader Number :=
  fun bytes =>
  let (significand, count, rest) := appendDigits significand bytes
  match rest with
  | [] =>
    if count = 0 then .error ⟨.endOfValue, []⟩
    else floatEnd negative significand (exponent - count) []
  | b :: after =>
    if isDigit b then floatEnd negative significand (exponent - count) (after.dropWhile isDigit)
    else if count = 0 then .error ⟨.invalidNumber, after⟩
    else floatEnd negative significand (exponent - count) (b :: after)

/-- What follows the digits of a whole number that fits the significand.  A negative number below
the range of 64 bits, and negative zero, are floats. -/
def wholeEnd (negative : Bool) (significand : Nat) : Reader Number := fun bytes =>
  let whole : Number :=
    if !negative then .int significand
    else if significand = 0 || 0x8000000000000000 < significand then .float (-Float.ofNat significand)
    else .int (-(significand : Int))
  match bytes with
  | [] => .ok (whole, [])
  | b :: rest =>
    if b = '.'.toUInt8 then fractionPart negative significand 0 rest
    else if b = 'e'.toUInt8 || b = 'E'.toUInt8 then exponentPart negative significand 0 rest
    else .ok (whole, b :: rest)

/-- What follows the digits that fit the significand when more digits come, each worth one power of
ten. -/
def longEnd (negative : Bool) (significand : Nat) : Reader Number := fun bytes =>
  let exponent : Int := (bytes.takeWhile isDigit).length
  match bytes.dropWhile isDigit with
  | [] => scaled negative significand exponent []
  | b :: rest =>
    if b = '.'.toUInt8 then fractionPart negative significand exponent rest
    else floatEnd negative significand exponent (b :: rest)

def number (negative : Bool) : Reader Number
  | [] => .error ⟨.endOfValue, []⟩
  | b :: rest =>
    if !isDigit b then .error ⟨.invalidNumber, rest⟩
    else if digit b = 0 then
      match rest with
      | [] => wholeEnd negative 0 []
      | c :: after =>
        if isDigit c then .error ⟨.invalidNumber, after⟩ else wholeEnd negative 0 (c :: after)
    else
      let (significand, _, rest) := appendDigits (digit b) rest
      match rest with
      | [] => wholeEnd negative significand []
      | c :: after =>
        if isDigit c then longEnd negative significand (c :: after)
        else wholeEnd negative significand (c :: after)

end RecordMapper.Json.Reader
