import RecordMapper.Filter.Key
import RecordMapper.Value
/-! # Conditions

A condition map gives each raw key the value or the values to compare with. -/
set_option autoImplicit false
namespace RecordMapper.Filter

inductive Operand
  | null
  | one (value : Value)
  | many (values : List Value)
deriving Inhabited

namespace Operand

/-- The operand of a single value; comparing with `NULL` is testing for it. -/
def ofValue (value : Value) : Operand := if value.isNull then .null else .one value

end Operand

/-- Conditions by raw key, in the order in which the keys were first given. -/
abbrev Conditions := OrderedMap Operand

def Conditions.containsField (conditions : Conditions) (field : String) : Bool :=
  conditions.keys.any fun raw => (Key.ofText raw).field == field

end RecordMapper.Filter
