/-! # Cells

What a backend stores and what is bound to a statement. -/
set_option autoImplicit false
namespace RecordMapper

inductive Cell
  | null
  | int (n : Int64)
  | float (x : Float)
  | str (s : String)
  | binary (bytes : List UInt8)
deriving DecidableEq, Inhabited

inductive BindTag
  | integer
  | float
  | string
deriving DecidableEq, Repr

namespace BindTag

def code : BindTag → Char
  | .integer => 'i'
  | .float => 'd'
  | .string => 's'

end BindTag

namespace Cell

def isNull : Cell → Bool
  | .null => true
  | _ => false

def ofBool (b : Bool) : Cell := .int (if b then 1 else 0)

def bindTag : Cell → BindTag
  | .int _ => .integer
  | .float _ => .float
  | .null | .str _ | .binary _ => .string

end Cell

structure Param where
  tag : BindTag
  value : Cell
deriving DecidableEq

def Cell.param (cell : Cell) : Param := ⟨cell.bindTag, cell⟩

abbrev Row := List (String × Cell)

/-- The cell of a column.  Where a name occurs more than once, the last cell counts. -/
def Row.get? (row : Row) (name : String) : Option Cell := row.reverse.lookup name

end RecordMapper
