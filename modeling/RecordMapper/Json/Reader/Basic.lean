import RecordMapper.Json.Fault
/-! # Readers

A reader takes the bytes that are left and returns what it read with the bytes left after it, or a
`Stop`: the problem and the bytes left where reading stopped.  `Stop.locate` counts line and column
from there. -/
set_option autoImplicit false
namespace RecordMapper.Json

/-- A problem and the bytes that were left when it was found. -/
structure Stop where
  problem : Problem
  rest : List UInt8

def Stop.locate (bytes : List UInt8) (stop : Stop) : Fault :=
  let consumed := bytes.take (bytes.length - stop.rest.length)
  { problem := stop.problem
    line := 1 + consumed.count '\n'.toUInt8
    column := (consumed.reverse.takeWhile (· != '\n'.toUInt8)).length }

abbrev Reader (α : Type) := List UInt8 → Except Stop (α × List UInt8)

namespace Reader

def isSpace (b : UInt8) : Bool :=
  b == ' '.toUInt8 || b == '\t'.toUInt8 || b == '\n'.toUInt8 || b == '\r'.toUInt8

def skipSpace (bytes : List UInt8) : List UInt8 := bytes.dropWhile isSpace

def isDigit (b : UInt8) : Bool := '0'.toUInt8 ≤ b && b ≤ '9'.toUInt8

def digit (b : UInt8) : Nat := (b - '0'.toUInt8).toNat

end Reader

end RecordMapper.Json
