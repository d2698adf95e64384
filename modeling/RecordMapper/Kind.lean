/-! # Kinds of fields -/
set_option autoImplicit false
namespace RecordMapper

inductive Kind
  | int
  | float
  | bool
  | string
  | timestamp
  | structured
deriving DecidableEq, Repr, Inhabited

namespace Kind

def tag : Kind → String
  | .int => "int"
  | .float => "float"
  | .bool => "bool"
  | .string => "string"
  | .timestamp => "timestamp"
  | .structured => "structured"

/-- The kind that a tag names; two kinds have a second name. -/
def ofTag? (tag : String) : Option Kind :=
  if tag = "int" then some .int
  else if tag = "float" then some .float
  else if tag = "bool" then some .bool
  else if tag = "string" then some .string
  else if tag = "timestamp" || tag = "datetime" then some .timestamp
  else if tag = "structured" || tag = "json" then some .structured
  else none

end Kind

end RecordMapper
