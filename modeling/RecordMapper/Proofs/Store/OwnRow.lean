import RecordMapper.Proofs.Filter.Key
import RecordMapper.Proofs.Sql.Slots
import RecordMapper.Proofs.Store.Identifier
import RecordMapper.Proofs.Store.Update
/-! # The row of a record

The statements of a record, word by word.  A save is one `UPDATE` that assigns each requested field once
and tests the identifier alone; the deletion of a row is one `DELETE` with the same test
(`Store.sends_for_own_row`). -/
set_option autoImplicit false
namespace RecordMapper

open Calendar (Offset)
open Session (runOn)
open RecordMapper.Filter (Key Operand)

/-! ## Texts -/

namespace Sql

def Dialect.test (dialect : Dialect) (table column : String) (n : Nat) : String :=
  dialect.quoted table ++ "." ++ dialect.quoted column ++ " = " ++ dialect.marker n

end Sql

namespace Record
variable {record : Record}

def identifierTest (record : Record) (param : Param) : List Sql.Fragment :=
  [.text " WHERE ", .text "(", .name record.schema.table, .text ".", .name record.schema.idColumn,
    .text " = ", .bind param, .text ")"]

theorem sql_identifierTest (record : Record) (param : Param) (dialect : Sql.Dialect) (n : Nat) :
    Sql.Fragment.sql dialect n (record.identifierTest param) =
      " WHERE (" ++ dialect.test record.schema.table record.schema.idColumn (n + 1) ++ ")" := by
  have opening : ∀ s, " WHERE " ++ ("(" ++ s) = " WHERE (" ++ s := by
    intro s
    rw [← String.append_assoc]
    rfl
  simp [identifierTest, Sql.Dialect.test, Sql.Fragment.sql, String.append_assoc, opening]

/-- A column without marks is tested for the identifier as it is. -/
theorem suffix_identifier (named : record.schema.table ≠ "")
    (unmarked : Key.Unmarked record.schema.idColumn) {zone : Offset} {param : Param}
    (bound : record.id.toParam zone = some param) :
    (Sql.Where.ofConditions (record.schema.identifierCondition record.id) record.schema.table .and
      zone).suffix = record.identifierTest param := by
  have present := isNull_of_bound bound
  have tests : Sql.Clause.listTests ⟨record.schema.idColumn, .eq, false, .or, false⟩ [record.id] zone =
      [.compare .eq false param] := by
    simp [Sql.Clause.listTests, Sql.Clause.valueTests, Key.effectiveOperator, present, bound]
  have clause : Sql.Clause.ofCondition record.schema.table zone record.schema.idColumn
      (.one record.id) =
        ⟨record.schema.table, record.schema.idColumn, .or, [.compare .eq false param], false⟩ := by
    rw [Sql.Clause.ofCondition, Key.ofText_unmarked unmarked, Sql.Clause.operandTests, tests]
    rfl
  have column : Sql.Fragment.column record.schema.table record.schema.idColumn =
      [.name record.schema.table, .text ".", .name record.schema.idColumn] := by
    rw [Sql.Fragment.column, if_neg (by simpa using named)]
  rw [Sql.Where.ofConditions, entries_identifierCondition bound, List.map_cons, List.map_nil, clause]
  simp [Sql.Where.suffix, Sql.Where.fragments, Sql.Fragment.joined, Sql.Clause.fragments, column,
    Sql.Test.fragments, Filter.Operator.sql, identifierTest]

theorem statement_updateOf (named : record.schema.table ≠ "")
    (unmarked : Key.Unmarked record.schema.idColumn) {dialect : Sql.Dialect} {param : Param}
    (bound : record.id.toParam dialect.zone = some param)
    (cells : List (String × Cell)) :
    (record.updateOf cells).statement dialect =
      ⟨"UPDATE " ++ dialect.quoted record.schema.table ++ " SET " ++
          String.intercalate ", " (dialect.assignments 0 cells) ++ " WHERE (" ++
          dialect.test record.schema.table record.schema.idColumn
            ((Sql.givenCells cells).length + 1) ++ ")",
        Sql.givenCells cells ++ [param]⟩ := by
  have test := suffix_identifier named unmarked bound
  have tested := givenConditions_identifier bound
  have text : ((record.updateOf cells).statement dialect).sql = _ :=
    (record.updateOf cells).sql_statement dialect
  have params : ((record.updateOf cells).statement dialect).params = _ :=
    Sql.params_update (record.updateOf cells) dialect.zone
  simp only [Sql.Update.text, updateOf, test, sql_identifierTest, String.append_assoc] at text
  simp only [updateOf, tested] at params
  simp only [String.append_assoc]
  rw [← text, ← params]
  rfl

theorem statement_delete (named : record.schema.table ≠ "")
    (unmarked : Key.Unmarked record.schema.idColumn) {dialect : Sql.Dialect} {param : Param}
    (bound : record.id.toParam dialect.zone = some param) :
    ∃ removal, record.delete = .ok removal ∧ removal.statement dialect =
      ⟨"DELETE FROM " ++ dialect.quoted record.schema.table ++ " WHERE (" ++
          dialect.test record.schema.table record.schema.idColumn 1 ++ ")",
        [param]⟩ := by
  rw [delete, isNull_of_bound bound]
  refine ⟨_, rfl, ?_⟩
  rw [Sql.Delete.statement, Sql.Delete.fragments, suffix_identifier named unmarked bound,
    Sql.Fragment.statement, Sql.Fragment.sql_append, sql_identifierTest, Sql.Fragment.params_append]
  refine congrArg (Sql.Statement.mk · _) ?_
  simp [Sql.Fragment.sql, String.append_assoc]

end Record

/-! ## What is sent -/

namespace Store
variable {σ : Type}

/-- One statement to be executed is sent, and nothing else. -/
def Executes (store after : Store σ) (statement : Sql.Statement) : Prop :=
  ∃ succeeded, store.Called after [(.exec statement, succeeded)]

/-- For a record with an identifier, whose fields have columns of their own, and whatever hooks and
dialect: a save of no fields sends nothing and reports 0.  A save of fields whose values can be stored is
one `UPDATE`, which assigns the column of each field once, in the order of first request, and has the
parameters of the cells that are not `NULL` before that of the identifier.  Any other save fails and
sends nothing.  To remove the row is one `DELETE` with the same test and the identifier alone. -/
theorem sends_for_own_row {declaration : Declaration} {record : Record}
    (valid : declaration.schema = .ok record.schema) (present : record.id.isNull = false)
    (unmarked : Key.Unmarked record.schema.idColumn)
    (distinct : (record.schema.fields.map Field.column).Nodup) (names : Option (List String))
    (store : Store σ) :
    let dialect := store.dialect
    let table := record.schema.table
    let requested := (record.requested names).eraseDups
    let Stored := List.Forall₂ (record.Stores (store.hooks record.entity) dialect.zone) requested
    ∃ param, record.id.toParam dialect.zone = some param ∧
      (record.requested names = [] → runOn (save record names) store = (.ok 0, store)) ∧
      (∀ cells, record.requested names ≠ [] → Stored cells →
        cells.map Prod.fst = requested.map record.schema.column ∧ (cells.map Prod.fst).Nodup ∧
        store.Executes (runOn (save record names) store).2
          ⟨"UPDATE " ++ dialect.quoted table ++ " SET " ++
              String.intercalate ", " (dialect.assignments 0 cells) ++ " WHERE (" ++
              dialect.test table record.schema.idColumn ((Sql.givenCells cells).length + 1) ++ ")",
            Sql.givenCells cells ++ [param]⟩) ∧
      ((¬ ∃ cells, Stored cells) → ∃ fault, runOn (save record names) store = (.error fault, store)) ∧
      (record.schema.deletion = .hard →
        store.Executes ((delete record).run store).2
          ⟨"DELETE FROM " ++ dialect.quoted table ++ " WHERE (" ++
              dialect.test table record.schema.idColumn 1 ++ ")",
            [param]⟩) := by
  intro dialect table requested Stored
  have wellFormed := declaration.wellFormed_schema valid
  obtain ⟨param, bound⟩ : ∃ param, record.id.toParam dialect.zone = some param := by
    cases identifier : record.id with
    | null => rw [identifier] at present; cases present
    | _ => exact ⟨_, rfl⟩
  refine ⟨param, bound, ?_, ?_, ?_, ?_⟩
  · intro none
    rw [runOn_save, (Record.update?_eq_none_iff valid).mpr ⟨present, none⟩]
  · intro cells some' stores
    have columns : cells.map Prod.fst = requested.map record.schema.column :=
      Record.columns_of_stores stores
    have given := (Record.update?_eq_some_iff valid).mpr ⟨present, some', cells, stores, rfl⟩
    obtain ⟨succeeded, called⟩ := called_save given
    rw [Record.statement_updateOf wellFormed.named unmarked bound] at called
    refine ⟨columns, ?_, succeeded, called⟩
    rw [columns]
    refine Schema.nodup_columns distinct ?_ (nodup_eraseDups _)
    intro name member
    exact Record.fields_of_stores stores name (List.mem_eraseDups.mp member)
  · intro refused
    rw [runOn_save]
    rcases given : record.update? (store.hooks record.entity) store.dialect.zone names with
      fault | _ | update
    · exact ⟨fault, rfl⟩
    · obtain ⟨-, none⟩ := (Record.update?_eq_none_iff valid).mp given
      refine absurd ⟨[], ?_⟩ refused
      show List.Forall₂ _ (record.requested names).eraseDups []
      rw [none]
      exact .nil
    · obtain ⟨-, -, cells, stores, -⟩ := (Record.update?_eq_some_iff valid).mp given
      exact absurd ⟨cells, stores⟩ refused
  · intro hard
    obtain ⟨removal, given, statement⟩ :=
      Record.statement_delete wellFormed.named unmarked bound
    obtain ⟨succeeded, called⟩ := called_removal given store
    refine ⟨succeeded, ?_⟩
    rw [statement] at called
    have rowDeleted : (delete record : StateM (Store σ) Outcome) =
        outcome (deleteRow record) record := by
      rw [delete, hard]
    rw [rowDeleted]
    exact called

def numberedStore : Store Unit :=
  Store.new (answering []) () ⟨'"', .numbered, .utc⟩
    (Catalog.ofEntities fun _ => { declaration := people })

def ann : Record := ⟨"Person", peopleSchema, .str "p1", [.str "Ann", .null]⟩

theorem sends_for_own_row_ann :
    people.schema = .ok ann.schema ∧ ann.id.isNull = false ∧ Key.Unmarked ann.schema.idColumn ∧
      (ann.schema.fields.map Field.column).Nodup ∧
      numberedStore.Executes (runOn (save ann (some ["city", "name", "city"])) numberedStore).2
        ⟨"UPDATE \"people\" SET \"city\" = null, \"full_name\" = $1 " ++
            "WHERE (\"people\".\"person_id\" = $2)",
          [(Cell.str "Ann").param, (Cell.str "p1").param]⟩ ∧
      numberedStore.Executes ((delete ann).run numberedStore).2
        ⟨"DELETE FROM \"people\" WHERE (\"people\".\"person_id\" = $1)",
          [(Cell.str "p1").param]⟩ := by
  have valid : people.schema = .ok ann.schema := rfl
  have present : ann.id.isNull = false := rfl
  have unmarked : Key.Unmarked ann.schema.idColumn := by decide
  have distinct : (ann.schema.fields.map Field.column).Nodup := by decide
  have once : (ann.requested (some ["city", "name", "city"])).eraseDups = ["city", "name"] := by decide
  have stores : List.Forall₂ (ann.Stores (numberedStore.hooks ann.entity) numberedStore.dialect.zone)
      ["city", "name"] [("city", .null), ("full_name", .str "Ann")] := by
    refine .cons ⟨_, _, rfl, rfl, rfl, rfl⟩ (.cons ⟨_, _, rfl, rfl, rfl, rfl⟩ .nil)
  obtain ⟨param, bound, -, saved, -, deleted⟩ := sends_for_own_row valid present unmarked distinct
    (some ["city", "name", "city"]) numberedStore
  obtain rfl := Option.some.inj bound
  rw [once] at saved
  obtain ⟨-, -, update⟩ := saved _ (by decide) stores
  refine ⟨valid, present, unmarked, distinct, ?_, ?_⟩
  · exact update
  · exact deleted rfl

end Store

end RecordMapper
