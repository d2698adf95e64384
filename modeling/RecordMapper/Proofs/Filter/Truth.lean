import RecordMapper.Conversion
import RecordMapper.Filter.Conditions
/-! # What conditions mean

The truth of a condition map for a row, in the three values of SQL.  Each entry is read by itself;
`Interpretation` leaves open what values are and which of them an operator relates, so that nothing
here depends on collations, on patterns or on the order of a backend. -/
set_option autoImplicit false
namespace RecordMapper.Filter

open Calendar (Offset)

inductive Truth
  | yes
  | no
  | unknown
deriving DecidableEq, Repr

namespace Truth

def ofBool (b : Bool) : Truth := if b then .yes else .no

def not : Truth → Truth
  | .yes => .no
  | .no => .yes
  | .unknown => .unknown

def and : Truth → Truth → Truth
  | .no, _ => .no
  | _, .no => .no
  | .yes, .yes => .yes
  | _, _ => .unknown

def or : Truth → Truth → Truth
  | .yes, _ => .yes
  | _, .yes => .yes
  | .no, .no => .no
  | _, _ => .unknown

theorem and_eq_yes {a b : Truth} : a.and b = .yes ↔ a = .yes ∧ b = .yes := by
  cases a <;> cases b <;> decide

theorem or_eq_yes {a b : Truth} : a.or b = .yes ↔ a = .yes ∨ b = .yes := by
  cases a <;> cases b <;> decide

end Truth

namespace Connective

def apply : Connective → Truth → Truth → Truth
  | .and => Truth.and
  | .or => Truth.or

def join (connective : Connective) : List Truth → Truth
  | [] => .yes
  | first :: rest => rest.foldl connective.apply first

theorem join_concat (connective : Connective) (terms : List Truth) (last : Truth)
    (nonempty : terms ≠ []) :
    connective.join (terms ++ [last]) = connective.apply (connective.join terms) last := by
  cases terms with
  | nil => exact absurd rfl nonempty
  | cons first rest => exact List.foldl_append

end Connective

/-- What the values of a backend are and how they compare. -/
structure Interpretation (V : Type) where
  value : Param → V
  lowered : V → V
  holds : Operator → V → V → Bool

structure Column where
  table : Option String
  name : String
deriving DecidableEq

def Column.of (table name : String) : Column := ⟨if table.isEmpty then none else some table, name⟩

namespace Interpretation
variable {V : Type} (m : Interpretation V)

def compare (operator : Operator) : Option V → Option V → Truth
  | some a, some b => .ofBool (m.holds operator a b)
  | _, _ => .unknown

/-- Whether a value is among those listed; negated, whether it differs from all of them. -/
def member (negate : Bool) (value : Option V) (listed : List V) : Truth :=
  match value with
  | none => .unknown
  | some a => .ofBool (if negate then listed.all (m.holds .ne a) else listed.any (m.holds .eq a))

/-- Differing from all values is not being among them, if `<>` says the contrary of `=`. -/
theorem member_negate (contrary : ∀ a b, m.holds .ne a b = !m.holds .eq a b) (value : Option V)
    (listed : List V) : m.member true value listed = (m.member false value listed).not := by
  cases value with
  | none => rfl
  | some a =>
      have differs : listed.all (m.holds .ne a) = !listed.any (m.holds .eq a) := by
        rw [List.not_any_eq_all_not]
        exact congrArg listed.all (funext fun b => contrary a b)
      simp only [member, if_true, differs, Bool.false_eq_true, if_false]
      cases listed.any (m.holds .eq a) <;> rfl

end Interpretation

def nullTruth {V : Type} (negate : Bool) (value : Option V) : Truth :=
  .ofBool (value.isNone != negate)

namespace Key
variable {V : Type} (m : Interpretation V)

def compareTruth (key : Key) (value : Option V) (param : Param) : Truth :=
  let side := fun x : Option V => if key.caseInsensitive then x.map m.lowered else x
  m.compare key.effectiveOperator (side value) (side (some (m.value param)))

def termTruths (key : Key) (value : Option V) (values : List Value) (zone : Offset) : List Truth :=
  let params := values.filterMap fun v => v.toParam zone
  (if values.any Value.isNull then [nullTruth key.negate value] else []) ++
    if key.operator = .eq then
      if params.isEmpty then [] else [m.member key.negate value (params.map m.value)]
    else params.map (key.compareTruth m value)

/-- The truth of a list without terms: nothing is in it, and everything is not in it; of any other
comparison, all of no terms hold and none of them does. -/
def vacuous (key : Key) : Truth :=
  if key.operator = .eq then .ofBool key.negate else .ofBool (key.join == .and)

def listTruth (key : Key) (value : Option V) (values : List Value) (zone : Offset) : Truth :=
  match key.termTruths m value values zone with
  | [] => key.vacuous
  | terms => key.join.join terms

def truth (key : Key) (value : Option V) (zone : Offset) : Operand → Truth
  | .null => nullTruth key.negate value
  | .one .null => nullTruth key.negate value
  | .one v => key.listTruth m value [v] zone
  | .many values => key.listTruth m value values zone

end Key

/-- The truth of a condition map for a row: that of its entries, joined. -/
def Conditions.truth {V : Type} (conditions : Conditions) (m : Interpretation V)
    (row : Column → Option V) (table : String) (compose : Connective) (zone : Offset) : Truth :=
  compose.join (conditions.entries.map fun entry =>
    let key := Key.ofText entry.1
    key.truth m (row (Column.of table key.field)) zone entry.2)

theorem Conditions.truth_congr {V : Type} (conditions : Conditions) (m : Interpretation V)
    {row other : Column → Option V} {table : String} (compose : Connective) (zone : Offset)
    (same : ∀ raw ∈ conditions.keys, row (Column.of table (Key.ofText raw).field) =
      other (Column.of table (Key.ofText raw).field)) :
    conditions.truth m row table compose zone = conditions.truth m other table compose zone := by
  refine congrArg compose.join (List.map_congr_left fun entry member => ?_)
  dsimp only
  rw [same entry.1 (List.mem_map_of_mem member)]

end RecordMapper.Filter
