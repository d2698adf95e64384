/-! # Comparison operators and connectives -/
set_option autoImplicit false
namespace RecordMapper.Filter

inductive Operator
  | eq
  | ne
  | gt
  | gte
  | lt
  | lte
  | like
  | notLike
deriving DecidableEq, Repr

namespace Operator

def sql : Operator → String
  | .eq => "="
  | .ne => "<>"
  | .gt => ">"
  | .gte => ">="
  | .lt => "<"
  | .lte => "<="
  | .like => "LIKE"
  | .notLike => "NOT LIKE"

/-- The operator that holds, of two values, exactly when this one does not. -/
def complement : Operator → Operator
  | .eq => .ne
  | .ne => .eq
  | .gt => .lte
  | .gte => .lt
  | .lt => .gte
  | .lte => .gt
  | .like => .notLike
  | .notLike => .like

theorem complement_complement (op : Operator) : op.complement.complement = op := by
  cases op <;> rfl

end Operator

inductive Connective
  | and
  | or
deriving DecidableEq, Repr, Inhabited

namespace Connective

def sql : Connective → String
  | .and => "AND"
  | .or => "OR"

def separator : Connective → String
  | .and => " AND "
  | .or => " OR "

end Connective

end RecordMapper.Filter
