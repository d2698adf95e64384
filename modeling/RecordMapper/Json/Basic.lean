import RecordMapper.SortedMap
/-! # JSON documents

A document keeps integers and floats apart, and the members of an object in ascending order of
their names, each name once. -/
set_option autoImplicit false
namespace RecordMapper

inductive Json.Number
  | int (n : Int)
  | float (x : Float)
deriving DecidableEq

inductive Json
  | null
  | bool (b : Bool)
  | number (n : Json.Number)
  | string (s : String)
  | array (items : List Json)
  | object (members : List (String × Json))
deriving Inhabited

namespace Json

def isNull : Json → Bool
  | .null => true
  | _ => false

/-- The object with the given members, of which the last one of each name counts. -/
def ofMembers (members : List (String × Json)) : Json :=
  .object (SortedMap.ofList members)

/-- Numbers agree if they are of one kind and equal; the two zeros are equal floats. -/
def Number.agrees : Number → Number → Bool
  | .int m, .int n => m == n
  | .float x, .float y => x == y
  | _, _ => false

mutual

def agrees : Json → Json → Bool
  | .null, .null => true
  | .bool a, .bool b => a == b
  | .number m, .number n => m.agrees n
  | .string s, .string t => s == t
  | .array as, .array bs => agreeItems as bs
  | .object as, .object bs => agreeMembers as bs
  | _, _ => false

def agreeItems : List Json → List Json → Bool
  | [], [] => true
  | a :: as, b :: bs => agrees a b && agreeItems as bs
  | _, _ => false

def agreeMembers : List (String × Json) → List (String × Json) → Bool
  | [], [] => true
  | (m, a) :: as, (n, b) :: bs => m == n && agrees a b && agreeMembers as bs
  | _, _ => false

end

end Json

end RecordMapper
