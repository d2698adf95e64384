import RecordMapper.Conversion
import RecordMapper.Filter.Conditions
import RecordMapper.Sql.Fragment
/-! # The condition of a statement

Each entry of a condition map becomes a clause: tests of one column, joined by the key's connective
and enclosed in parentheses.  The clauses are joined by the connective of the whole condition.  A
list of at least two values under an equality key becomes one membership test; an empty list has no
tests, and its clause is a constant. -/
set_option autoImplicit false
namespace RecordMapper.Sql

open Calendar (Offset)
open RecordMapper.Filter (Conditions Connective Key Operand Operator)

inductive Test
  | isNull (negate : Bool)
  | isAmong (negate : Bool) (params : List Param)
  | compare (operator : Operator) (lowered : Bool) (param : Param)
deriving DecidableEq

structure Clause where
  table : String
  column : String
  join : Connective
  tests : List Test
  /-- The truth of the clause if it has no tests. -/
  vacuous : Bool
deriving DecidableEq

structure Where where
  compose : Connective
  clauses : List Clause
deriving DecidableEq

namespace Test

def fragments (column : List Fragment) : Test → List Fragment
  | .isNull negate => column ++ [.text (if negate then " is NOT NULL" else " is NULL")]
  | .isAmong negate params =>
    column ++ [.text (if negate then " not in (" else " in (")] ++
      Fragment.joined "," (params.map fun param => [.bind param]) ++ [.text ")"]
  | .compare operator lowered param =>
    if lowered then
      [.text "LOWER("] ++ column ++
        [.text (") " ++ operator.sql ++ " LOWER("), .bind param, .text ")"]
    else column ++ [.text (" " ++ operator.sql ++ " "), .bind param]

end Test

namespace Clause

def fragments (clause : Clause) : List Fragment :=
  let column := Fragment.column clause.table clause.column
  [.text "("] ++
    (if clause.tests.isEmpty then [.text (if clause.vacuous then "1 = 1" else "1 = 0")]
      else Fragment.joined clause.join.separator (clause.tests.map (Test.fragments column))) ++
    [.text ")"]

def valueTests (key : Key) (params : List Param) : List Test :=
  if 2 ≤ params.length && key.operator = .eq then [.isAmong key.negate params]
  else params.map fun param => .compare key.effectiveOperator key.caseInsensitive param

/-- The tests for a list of values, with the one for `NULL` first. -/
def listTests (key : Key) (values : List Value) (zone : Offset) : List Test :=
  (if values.any Value.isNull then [.isNull key.negate] else []) ++
    valueTests key (values.filterMap fun value => value.toParam zone)

def operandTests (key : Key) (operand : Operand) (zone : Offset) : List Test :=
  match operand with
  | .null => [.isNull key.negate]
  | .one value => listTests key [value] zone
  | .many values => listTests key values zone

/-- Nothing is a member of an empty list, and everything is a non-member; of any other comparison
with no values, all hold and none does. -/
def vacuousTruth (key : Key) : Bool :=
  if key.operator = .eq then key.negate else key.join = .and

def ofCondition (table : String) (zone : Offset) (raw : String) (operand : Operand) : Clause :=
  let key := Key.ofText raw
  { table := table
    column := key.field
    join := key.join
    tests := operandTests key operand zone
    vacuous := vacuousTruth key }

end Clause

namespace Where

def ofConditions (conditions : Conditions) (table : String) (compose : Connective)
    (zone : Offset) : Where :=
  ⟨compose, conditions.entries.map fun entry => Clause.ofCondition table zone entry.1 entry.2⟩

def fragments (w : Where) : List Fragment :=
  Fragment.joined w.compose.separator (w.clauses.map Clause.fragments)

def suffix (w : Where) : List Fragment :=
  if w.clauses.isEmpty then [] else .text " WHERE " :: w.fragments

end Where

def Dialect.condition (dialect : Dialect) (conditions : Conditions) (table : String)
    (compose : Connective) : Statement :=
  Fragment.statement dialect (Where.ofConditions conditions table compose dialect.zone).fragments

end RecordMapper.Sql
