import RecordMapper.Proofs.Sql.Spacing
import RecordMapper.Sql.Delete
import RecordMapper.Sql.Insert
import RecordMapper.Sql.Select
import RecordMapper.Sql.Update
/-! # Commands

A `Command` is anything that a statement is built from: a condition by itself, or one of the four
statements.  The pieces of a command without verbatim text are spaced, and `Command.given` are the
values that it was given, as parameters, in the order in which they were given. -/
set_option autoImplicit false
namespace RecordMapper

open Calendar (Offset)
open RecordMapper.Filter (Conditions Connective Key Operand Operator)

def Filter.Operand.values : Operand → List Value
  | .null => []
  | .one value => [value]
  | .many values => values

namespace Sql

inductive Command
  | condition (conditions : Conditions) (table : String) (compose : Connective)
  | insert (insert : Insert)
  | update (update : Update)
  | delete (delete : Delete)
  | select (select : Select)

/-- The parameters of the values that are not null, entry by entry. -/
def givenConditions (conditions : Conditions) (zone : Offset) : List Param :=
  conditions.entries.flatMap fun entry => entry.2.values.filterMap fun value => value.toParam zone

def givenCells (cells : List (String × Cell)) : List Param :=
  (cells.filter fun entry => !entry.2.isNull).map fun entry => entry.2.param

namespace Command

def fragments (zone : Offset) : Command → List Fragment
  | .condition conditions table compose =>
    (Where.ofConditions conditions table compose zone).fragments
  | .insert row => row.fragments
  | .update change => change.fragments zone
  | .delete removal => removal.fragments zone
  | .select query => query.fragments zone

def statement (dialect : Dialect) : Command → Statement
  | .condition conditions table compose => dialect.condition conditions table compose
  | .insert row => row.statement dialect
  | .update change => change.statement dialect
  | .delete removal => removal.statement dialect
  | .select query => query.statement dialect

theorem statement_eq (dialect : Dialect) (command : Command) :
    command.statement dialect = Fragment.statement dialect (command.fragments dialect.zone) := by
  cases command <;> rfl

/-- No text is taken over as it is: a selection has no order and nothing at its end. -/
def Plain : Command → Prop
  | .select query => query.orderBy = [] ∧ query.raw = none
  | _ => True

def given (zone : Offset) : Command → List Param
  | .condition conditions _ _ => givenConditions conditions zone
  | .insert row => givenCells row.cells
  | .update change => givenCells change.cells ++ givenConditions change.conditions zone
  | .delete removal => givenConditions removal.conditions zone
  | .select query => givenConditions query.conditions zone

end Command

/-! ## Spacing -/

open Fragment

theorem spaced_cell (cell : Cell) : Spaced [Fragment.cell cell] := by
  unfold Fragment.cell
  split
  · exact spaced_text "null" (by decide)
  · exact spaced_bind _

theorem spaced_column (table name : String) : Spaced (Fragment.column table name) := by
  unfold Fragment.column
  split
  · exact spaced_name name
  · exact spaced_between [_] "." _ (by decide) (spaced_name table) (spaced_name name)

theorem spaced_test (column : List Fragment) (spaced : Spaced column) (test : Test) :
    Spaced (test.fragments column) := by
  cases test with
  | isNull negate => cases negate <;> exact spaced_closing _ _ (by decide) spaced
  | isAmong negate params =>
      have list : Spaced (joined "," (params.map fun param => [Fragment.bind param])) := by
        refine spaced_joined "," _ (by decide) fun part member => ?_
        obtain ⟨param, -, rfl⟩ := List.mem_map.mp member
        exact spaced_bind param
      have closed := spaced_closing _ ")" (by decide) list
      simp only [Test.fragments, List.append_assoc, List.singleton_append]
      cases negate <;> exact spaced_between _ _ _ (by decide) spaced closed
  | compare operator lowered param =>
      have closed : Spaced [Fragment.bind param, .text ")"] :=
        spaced_closing [_] ")" (by decide) (spaced_bind param)
      cases lowered with
      | false =>
          refine spaced_between _ _ _ ?_ spaced (spaced_bind param)
          cases operator <;> decide
      | true =>
          refine spaced_opening "LOWER(" _ (by decide) ?_
          refine spaced_between _ _ _ ?_ spaced closed
          cases operator <;> decide

theorem spaced_separated (connective : Connective) (parts : List (List Fragment))
    (spaced : ∀ part ∈ parts, Spaced part) : Spaced (joined connective.separator parts) := by
  cases connective <;> exact spaced_joined _ parts (by decide) spaced

def Clause.body (clause : Clause) : List Fragment :=
  if clause.tests.isEmpty then [.text (if clause.vacuous then "1 = 1" else "1 = 0")]
  else joined clause.join.separator
    (clause.tests.map (Test.fragments (Fragment.column clause.table clause.column)))

theorem Clause.fragments_eq_body (clause : Clause) :
    clause.fragments = .text "(" :: (clause.body ++ [.text ")"]) := rfl

theorem spaced_clause (clause : Clause) : Spaced clause.fragments := by
  have body : Spaced clause.body := by
    unfold Clause.body
    split
    · cases clause.vacuous <;> exact spaced_text _ (by decide)
    · refine spaced_separated _ _ fun part member => ?_
      obtain ⟨test, -, rfl⟩ := List.mem_map.mp member
      exact spaced_test _ (spaced_column _ _) test
  refine spaced_opening "(" _ (by decide) ?_
  exact spaced_closing _ ")" (by decide) body

theorem spaced_where (w : Where) : Spaced w.fragments := by
  refine spaced_separated _ _ fun part member => ?_
  obtain ⟨clause, -, rfl⟩ := List.mem_map.mp member
  exact spaced_clause clause

theorem spaced_suffix (w : Where) : Spaced w.suffix := by
  unfold Where.suffix
  split
  · exact spaced_nil
  · exact spaced_opening " WHERE " _ (by decide) (spaced_where w)

theorem suffix_begins (w : Where) : ∀ piece ∈ w.suffix.head?, piece.beginsLoose = true := by
  intro piece member
  unfold Where.suffix at member
  split at member
  · simp at member
  · obtain rfl : Fragment.text " WHERE " = piece := by simpa using member
    decide

theorem spaced_insert (insert : Insert) : Spaced insert.fragments := by
  have columns : Spaced (joined "," (insert.cells.map fun entry => [Fragment.name entry.1])) := by
    refine spaced_joined "," _ (by decide) fun part member => ?_
    obtain ⟨entry, -, rfl⟩ := List.mem_map.mp member
    exact spaced_name entry.1
  have cells : Spaced
      (joined "," (insert.cells.map fun entry => [Fragment.cell entry.2])) := by
    refine spaced_joined "," _ (by decide) fun part member => ?_
    obtain ⟨entry, -, rfl⟩ := List.mem_map.mp member
    exact spaced_cell entry.2
  unfold Insert.fragments
  split
  · refine spaced_opening "INSERT INTO " _ (by decide) ?_
    exact spaced_closing [_] " DEFAULT VALUES" (by decide) (spaced_name insert.table)
  · simp only [List.append_assoc, List.cons_append, List.nil_append]
    refine spaced_opening "INSERT INTO " _ (by decide) ?_
    refine spaced_between [_] " (" _ (by decide) (spaced_name insert.table) ?_
    refine spaced_between _ ") VALUES (" _ (by decide) columns ?_
    exact spaced_closing _ ")" (by decide) cells

theorem spaced_update (update : Update) (zone : Offset) : Spaced (update.fragments zone) := by
  have assignments : Spaced (joined ", " (update.cells.map Update.assignment)) := by
    refine spaced_joined ", " _ (by decide) fun part member => ?_
    obtain ⟨entry, -, rfl⟩ := List.mem_map.mp member
    exact spaced_between [_] " = " _ (by decide) (spaced_name entry.1) (spaced_cell entry.2)
  unfold Update.fragments
  simp only [List.cons_append, List.nil_append]
  refine spaced_opening "UPDATE " _ (by decide) ?_
  refine spaced_between [_] " SET " _ (by decide) (spaced_name update.table) ?_
  exact spaced_append _ _ assignments (suffix_begins _) (spaced_suffix _)

theorem spaced_delete (delete : Delete) (zone : Offset) : Spaced (delete.fragments zone) := by
  refine spaced_opening "DELETE FROM " _ (by decide) ?_
  exact spaced_append [_] _ (spaced_name delete.table) (suffix_begins _) (spaced_suffix _)

theorem spaced_expression (field : SelectField) (table : String) :
    Spaced (field.expression table) := by
  have column : Spaced (if field.column = "*"
      then if table.isEmpty then [Fragment.text "*"] else [.name table, .text ".*"]
      else Fragment.column table field.column) := by
    split
    · split
      · exact spaced_text "*" (by decide)
      · exact spaced_closing [_] ".*" (by decide) (spaced_name table)
    · exact spaced_column table field.column
  unfold SelectField.expression
  dsimp only
  split
  · refine spaced_opening "COUNT(" _ (by decide) ?_
    exact spaced_closing _ ")" (by decide) column
  · exact column

theorem spaced_field (field : SelectField) (table : String) : Spaced (field.fragments table) := by
  unfold SelectField.fragments
  split
  · exact spaced_between _ " AS " _ (by decide) (spaced_expression field table) (spaced_name _)
  · exact spaced_expression field table

theorem spaced_fieldList (select : Select) : Spaced select.fieldFragments := by
  unfold Select.fieldFragments
  split
  · exact spaced_text "*" (by decide)
  · refine spaced_joined ", " _ (by decide) fun part member => ?_
    obtain ⟨field, -, rfl⟩ := List.mem_map.mp member
    exact spaced_field field select.table

theorem spaced_groupList (select : Select) : Spaced select.groupFragments := by
  unfold Select.groupFragments
  split
  · exact spaced_nil
  · refine spaced_opening " GROUP BY " _ (by decide) ?_
    refine spaced_joined ", " _ (by decide) fun part member => ?_
    obtain ⟨entry, -, rfl⟩ := List.mem_map.mp member
    exact spaced_expression _ select.table

theorem groupList_begins (select : Select) :
    ∀ piece ∈ select.groupFragments.head?, piece.beginsLoose = true := by
  intro piece member
  unfold Select.groupFragments at member
  split at member
  · simp at member
  · obtain rfl : Fragment.text " GROUP BY " = piece := by simpa using member
    decide

def Select.front (select : Select) : List Fragment :=
  [.text "SELECT "] ++ select.fieldFragments ++ [.text " FROM ", .name select.table]

theorem spaced_front (select : Select) : Spaced select.front := by
  unfold Select.front
  simp only [List.cons_append, List.nil_append]
  refine spaced_opening "SELECT " _ (by decide) ?_
  exact spaced_between _ " FROM " _ (by decide) (spaced_fieldList select) (spaced_name select.table)

def Select.listed (select : Select) (zone : Offset) : List Fragment :=
  select.front ++
    (Where.ofConditions select.conditions select.table select.compose zone).suffix ++
    select.groupFragments

theorem spaced_listed (select : Select) (zone : Offset) : Spaced (select.listed zone) := by
  unfold Select.listed
  refine spaced_append _ _ ?_ (groupList_begins select) (spaced_groupList select)
  exact spaced_append _ _ (spaced_front select) (suffix_begins _) (spaced_suffix _)

theorem Select.fragments_listed (select : Select) (zone : Offset) : select.fragments zone =
    select.listed zone ++ (select.orderFragments ++ select.rawFragments) := by
  simp only [Select.fragments, Select.listed, Select.front, List.append_assoc]

theorem Select.fragments_eq_listed (select : Select) (zone : Offset) (order : select.orderBy = [])
    (raw : select.raw = none) : select.fragments zone = select.listed zone := by
  have noOrder : select.orderFragments = [] := by simp [Select.orderFragments, order]
  have noRaw : select.rawFragments = [] := by
    have blank : (Text.trim (select.raw.getD "")).isEmpty = true := by rw [raw]; rfl
    simp [Select.rawFragments, blank]
  rw [select.fragments_listed, noOrder, noRaw, List.append_nil, List.append_nil]

theorem Command.spaced (command : Command) (plain : command.Plain) (zone : Offset) :
    Spaced (command.fragments zone) := by
  cases command with
  | condition conditions table compose => exact spaced_where _
  | insert row => exact spaced_insert row
  | update change => exact spaced_update change zone
  | delete removal => exact spaced_delete removal zone
  | select query =>
      rw [Command.fragments, query.fragments_eq_listed zone plain.1 plain.2]
      exact spaced_listed query zone

end Sql

end RecordMapper
