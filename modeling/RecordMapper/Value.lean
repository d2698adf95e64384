import RecordMapper.Calendar.Printer
import RecordMapper.Json.Printer
import RecordMapper.OrderedMap
/-! # Values

The typed values that records hold and conditions compare with. -/
set_option autoImplicit false
namespace RecordMapper

inductive Value
  | null
  | bool (b : Bool)
  | int (n : Int64)
  | float (x : Float)
  | str (s : String)
  | timestamp (t : Calendar.Timestamp)
  | json (document : Json)
deriving Inhabited

abbrev Values := OrderedMap Value

namespace Value

def isNull : Value → Bool
  | .null => true
  | _ => false

def bool? : Value → Option Bool
  | .bool b => some b
  | _ => none

def int? : Value → Option Int64
  | .int n => some n
  | _ => none

def float? : Value → Option Float
  | .float x => some x
  | _ => none

def str? : Value → Option String
  | .str s => some s
  | _ => none

def timestamp? : Value → Option Calendar.Timestamp
  | .timestamp t => some t
  | _ => none

def json? : Value → Option Json
  | .json document => some document
  | _ => none

/-- Equality of values: floats are compared as numbers and timestamps as instants. -/
def agrees : Value → Value → Bool
  | .null, .null => true
  | .bool a, .bool b => a == b
  | .int m, .int n => m == n
  | .float x, .float y => x == y
  | .str s, .str t => s == t
  | .timestamp s, .timestamp t => s.sameInstant t
  | .json a, .json b => a.agrees b
  | _, _ => false

instance : BEq Value := ⟨agrees⟩

/-- Floats in running text have the fewest digits that identify them and never an exponent: the
limits lie beyond the exponents of doubles. -/
def floatLayout : Decimal.Layout where
  plainFrom := -400
  plainBelow := 400
  pointZero := false
  plusSign := false
  tie := .up
  nan := "NaN"
  infinity := "inf"

def text : Value → String
  | .null => "NULL"
  | .bool b => if b then "true" else "false"
  | .int n => toString n.toInt
  | .float x => floatLayout.render x
  | .str s => s
  | .timestamp t => t.rfc3339
  | .json document => document.text

def floatJson (x : Float) : Json :=
  if x.isFinite then .number (.float x) else .null

def toJson : Value → Json
  | .null => .null
  | .bool b => .bool b
  | .int n => .number (.int n.toInt)
  | .float x => floatJson x
  | .str s => .string s
  | .timestamp t => .string t.rfc3339
  | .json document => document

end Value

end RecordMapper
