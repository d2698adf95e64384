import RecordMapper.Filter.Operator
/-! # Condition keys

The key of a condition is a field name with marks in front, read in this order:

* `!` negates the comparison;
* `*` joins a list of values with `AND`, where `OR` is the default;
* `>=` `<=` `<>` `>` `<` `=` is the operator, equality if there is none; `%` and `~` are `LIKE`, and
  `i%` and `i~` the same on lowered text.

Every text is a key: what is no mark belongs to the field name. -/
set_option autoImplicit false
namespace RecordMapper.Filter

structure Key where
  field : String
  operator : Operator
  negate : Bool
  /-- How the comparisons with several values are joined. -/
  join : Connective
  /-- Both sides are lowered before they are compared. -/
  caseInsensitive : Bool
deriving DecidableEq, Repr

namespace Key

structure Marks where
  negate : Bool
  join : Connective
  operator : Operator
  caseInsensitive : Bool
deriving DecidableEq, Repr

/-- The operator at the front, whether it lowers both sides, and what follows it. -/
def splitOperator : List Char → (Operator × Bool) × List Char
  | '>' :: '=' :: rest => ((.gte, false), rest)
  | '<' :: '=' :: rest => ((.lte, false), rest)
  | '<' :: '>' :: rest => ((.ne, false), rest)
  | 'i' :: '%' :: rest => ((.like, true), rest)
  | 'i' :: '~' :: rest => ((.like, true), rest)
  | '>' :: rest => ((.gt, false), rest)
  | '<' :: rest => ((.lt, false), rest)
  | '=' :: rest => ((.eq, false), rest)
  | '%' :: rest => ((.like, false), rest)
  | '~' :: rest => ((.like, false), rest)
  | rest => ((.eq, false), rest)

def splitMark (c : Char) : List Char → Bool × List Char
  | [] => (false, [])
  | d :: rest => if d = c then (true, rest) else (false, d :: rest)

def splitMarks (cs : List Char) : Marks × List Char :=
  let (negate, cs) := splitMark '!' cs
  let (all, cs) := splitMark '*' cs
  let ((operator, caseInsensitive), cs) := splitOperator cs
  (⟨negate, if all then .and else .or, operator, caseInsensitive⟩, cs)

def ofText (raw : String) : Key :=
  let (marks, field) := splitMarks raw.toList
  { field := String.ofList field
    operator := marks.operator
    negate := marks.negate
    join := marks.join
    caseInsensitive := marks.caseInsensitive }

def negatedOperator (key : Key) : Operator := key.operator.complement

def effectiveOperator (key : Key) : Operator :=
  if key.negate then key.negatedOperator else key.operator

def withField (key : Key) (field : String) : Key := { key with field := field }

def operatorMarks (operator : Operator) (caseInsensitive : Bool) : String :=
  match operator with
  | .like => if caseInsensitive then "i~" else "~"
  | .eq => ""
  | other => other.sql

def text (key : Key) : String :=
  (if key.negate then "!" else "") ++ (if key.join = .and then "*" else "") ++
    operatorMarks key.operator key.caseInsensitive ++ key.field

end Key

end RecordMapper.Filter
