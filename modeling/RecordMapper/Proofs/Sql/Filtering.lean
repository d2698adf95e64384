import RecordMapper.Proofs.Sql.Groups
import RecordMapper.Proofs.Sql.Meaning
/-! # The rows that a selection keeps

`Statement.rowTruth?` reads the condition of a selection off its text and its parameters, and is the
truth of that condition for a row.  `select_truth`: that is the truth of the condition map that the
selection was built from. -/
set_option autoImplicit false
namespace RecordMapper.Sql

open Calendar (Offset)
open RecordMapper.Filter (Column Conditions Connective Interpretation)
open Fragment (tokens)

/-- The truth of the condition of a selection for a row.  Without a condition every row is kept. -/
def Statement.rowTruth? {V : Type} (statement : Statement) (quote : Char) (m : Interpretation V)
    (row : Column → Option V) : Option Filter.Truth := do
  match conditionTokens (← statement.tokens? quote) with
  | [] => some .yes
  | _ :: condition => (Expression.read condition).map fun found => found.truth m row

def Statement.Keeps {V : Type} (statement : Statement) (quote : Char) (m : Interpretation V)
    (row : Column → Option V) : Prop :=
  statement.rowTruth? quote m row = some .yes

/-- A condition with an entry is read as an expression that has the truth of its condition map. -/
theorem read_conditions (conditions : Conditions) (table : String) (compose : Connective)
    (zone : Offset) (given : conditions.entries ≠ []) :
    ∃ whole, Expression.read (tokens (Where.ofConditions conditions table compose zone).fragments) =
        some whole ∧
      ∀ {V : Type} (m : Interpretation V) (row : Column → Option V),
        whole.truth m row = conditions.truth m row table compose zone := by
  generalize shape : Where.ofConditions conditions table compose zone = w
  have clauses : w.clauses = conditions.entries.map fun entry =>
      Clause.ofCondition table zone entry.1 entry.2 := by rw [← shape]; rfl
  have joined : w.compose = compose := by rw [← shape]; rfl
  have nonempty : w.clauses.map Clause.expression ≠ [] := by simpa [clauses] using given
  have readable : ∀ clause ∈ w.clauses, ∀ test ∈ clause.tests, test.Readable := by
    intro clause member
    rw [clauses] at member
    obtain ⟨entry, -, rfl⟩ := List.mem_map.mp member
    exact readable_ofCondition table zone entry.1 entry.2
  obtain ⟨whole, grouped⟩ := Parser.group_eq_some w.compose _ nonempty
  refine ⟨whole, (read_where w readable grouped).2, fun m row => ?_⟩
  rw [Expression.truth_group m row _ _ grouped, joined, clauses, Conditions.truth, List.map_map,
    List.map_map]
  refine congrArg compose.join (List.map_congr_left fun entry _ => ?_)
  exact truth_ofCondition m row table zone entry.1 entry.2

theorem select_truth (select : Select) {dialect : Dialect} (legible : dialect.Legible) {V : Type}
    (m : Interpretation V) (row : Column → Option V) :
    (Fragment.statement dialect (select.listed dialect.zone)).rowTruth? dialect.quote m row =
      some (select.conditions.truth m row select.table select.compose dialect.zone) := by
  have read : (Fragment.statement dialect (select.listed dialect.zone)).tokens? dialect.quote =
      some (tokens (select.listed dialect.zone)) :=
    Fragment.tokens?_statement legible _ (spaced_listed select dialect.zone)
  rw [Statement.rowTruth?, read, Option.bind_eq_bind, Option.bind_some, conditionTokens_listed]
  by_cases empty : select.conditions.entries = []
  · have suffix : (Where.ofConditions select.conditions select.table select.compose
        dialect.zone).suffix = [] := by simp [Where.suffix, Where.ofConditions, empty]
    rw [suffix, Filter.Conditions.truth, empty]
    rfl
  · have clauses : (Where.ofConditions select.conditions select.table select.compose
        dialect.zone).clauses.isEmpty = false := by simpa [Where.ofConditions] using empty
    obtain ⟨whole, found, truth⟩ := read_conditions select.conditions select.table select.compose
      dialect.zone empty
    rw [tokens_suffix _ clauses]
    dsimp only
    rw [found, Option.map_some, truth]

end RecordMapper.Sql
