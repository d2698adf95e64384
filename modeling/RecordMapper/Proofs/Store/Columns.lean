import RecordMapper.Proofs.Store.Restored
import RecordMapper.Proofs.Store.Sent
import RecordMapper.Proofs.Store.Update
/-! # The columns that are written

What is refused by its name may still be written by its column: a field can be renamed to the column of
the identifier, or to that of another field.  No statement writes a column twice, nor the identifier
through a field, if and only if the columns of a schema are apart (`writes_apart_iff`). -/
set_option autoImplicit false
namespace RecordMapper

open Calendar (Offset)
open Session (runOn)

namespace Schema
variable {schema : Schema} {hooks : Hooks} {zone : Offset}

/-- Every field has a column of its own, and none that of the identifier. -/
def ColumnsApart (schema : Schema) : Prop := (schema.idColumn :: schema.fields.map Field.column).Nodup

instance (schema : Schema) : Decidable schema.ColumnsApart := inferInstanceAs (Decidable (List.Nodup _))

theorem ColumnsApart.written (apart : schema.ColumnsApart) {names : List String}
    (fields : ∀ name ∈ names, ∃ field, schema.field? name = some field) (once : names.Nodup) :
    (schema.idColumn :: names.map schema.column).Nodup := by
  obtain ⟨free, distinct⟩ := List.nodup_cons.mp apart
  refine List.nodup_cons.mpr ⟨fun member => free ?_, nodup_columns distinct fields once⟩
  obtain ⟨name, written, same⟩ := List.mem_map.mp member
  obtain ⟨field, found⟩ := fields name written
  rw [column_of_field? found] at same
  exact same ▸ List.mem_map_of_mem (field?_some found).1

/-- A new row has the cells of the given values, and behind them that of a generated identifier. -/
theorem cells_of_newRow {values : Values} {row : NewRow}
    (made : schema.newRow hooks zone values = .ok row) :
    ∃ cells : List (String × Cell),
      (∀ name ∈ values.keys, ∃ field, schema.field? name = some field) ∧
      cells.map Prod.fst = values.keys.map schema.column ∧
      (row = ⟨⟨schema.table, cells⟩, none⟩ ∨
        ∃ id param, hooks.generateId values = some id ∧ id.toParam zone = some param ∧
          row = ⟨⟨schema.table, cells ++ [(schema.idColumn, param.value)]⟩, some id⟩) := by
  obtain ⟨-, -, cells, keeps, row⟩ := newRow_cases made
  have ofField : ∀ (entry : String × Value) (cell : String × Cell), schema.Keeps hooks zone entry cell →
      ∃ field, schema.field? entry.1 = some field ∧ cell.1 = field.column := by
    rintro entry cell ⟨field, found, column, -⟩
    exact ⟨field, found, column⟩
  refine ⟨cells, ?_, ?_, row.imp_left And.right⟩
  · intro name member
    obtain ⟨entry, entryMember, rfl⟩ := List.mem_map.mp member
    obtain ⟨cell, -, keeps⟩ := exists_of_forall₂ keeps entryMember
    obtain ⟨field, found, -⟩ := ofField entry cell keeps
    exact ⟨field, found⟩
  · rw [columns_of_forall₂ Prod.fst ofField keeps, OrderedMap.keys, List.map_map]
    rfl

end Schema

def Operation.generated {σ : Type} (store : Store σ) : Operation → Option Value
  | .create entity values => (store.hooks entity).generateId values
  | _ => none

/-- No column is written twice, and the identifier in a new row only, where it was generated. -/
inductive Call.WritesApart (schema : Schema) (dialect : Sql.Dialect) (generated : Option Value) :
    Call → Prop
  | inserted (cells : List (String × Cell))
      (apart : (schema.idColumn :: cells.map Prod.fst).Nodup) :
      WritesApart schema dialect generated (.insert (Sql.Insert.statement ⟨schema.table, cells⟩ dialect))
  | insertedAs (cells : List (String × Cell)) (id : Value) (param : Param)
      (apart : (schema.idColumn :: cells.map Prod.fst).Nodup) (supplied : generated = some id)
      (bound : id.toParam dialect.zone = some param) :
      WritesApart schema dialect generated (.exec (Sql.Insert.statement
        ⟨schema.table, cells ++ [(schema.idColumn, param.value)]⟩ dialect))
  | updated (update : Sql.Update) (apart : (schema.idColumn :: update.cells.map Prod.fst).Nodup) :
      WritesApart schema dialect generated (.exec (update.statement dialect))
  | deleted (removal : Sql.Delete) :
      WritesApart schema dialect generated (.exec (removal.statement dialect))

theorem Call.WritesApart.insert {schema : Schema} {dialect : Sql.Dialect} {generated : Option Value}
    {statement : Sql.Statement} (writes : WritesApart schema dialect generated (.insert statement)) :
    ∃ cells : List (String × Cell), (schema.idColumn :: cells.map Prod.fst).Nodup ∧
      statement = Sql.Insert.statement ⟨schema.table, cells⟩ dialect := by
  generalize same : Call.insert statement = call at writes
  cases writes with
  | inserted cells apart => exact ⟨cells, apart, Call.insert.inj same⟩
  | insertedAs | updated | deleted => cases same

namespace Operation
variable {σ : Type} {schema : Schema} {store : Store σ} {operation : Operation}

theorem Sent.writesApart {declaration : Declaration} (valid : declaration.schema = .ok schema)
    (apart : schema.ColumnsApart) {call : Call} (sent : operation.Sent schema store call) :
    call.WritesApart schema store.dialect (operation.generated store) := by
  cases sent with
  | row row made =>
      obtain ⟨cells, fields, columns, given⟩ := Schema.cells_of_newRow made
      have written := apart.written fields (OrderedMap.nodup_keys _)
      rw [← columns] at written
      rcases given with rfl | ⟨id, param, generated, bound, rfl⟩
      · exact .inserted cells written
      · exact .insertedAs cells id param written generated bound
  | update record same names update given =>
      subst same
      obtain ⟨-, -, cells, stores, rfl⟩ := (Record.update?_eq_some_iff valid).mp given
      have written := apart.written (fun name member =>
        Record.fields_of_stores stores name (List.mem_eraseDups.mp member)) (nodup_eraseDups _)
      rw [← Record.columns_of_stores stores] at written
      exact .updated _ written
  | removal record same removal given => exact .deleted removal

end Operation

namespace Store

theorem called_create_nulls {declaration : Declaration} {schema : Schema}
    (valid : declaration.schema = .ok schema) :
    ∃ (store : Store Unit) (values : Values) (cells : List (String × Cell)) (succeeded : Bool),
      store.dialect = .standard ∧ (runOn (Store.schema "") store).1 = .ok schema ∧
      cells.map Prod.fst = schema.fields.map Field.column ∧
      store.Called (runOn (create "" values) store).2
        [(.insert (Sql.Insert.statement ⟨schema.table, cells⟩ .standard), succeeded)] := by
  have wellFormed := declaration.wellFormed_schema valid
  let store : Store Unit :=
    Store.new (answering []) () .standard (Catalog.ofEntities fun _ => { declaration })
  have known : (runOn (Store.schema "") store).1 = .ok schema := schema_of_declared rfl valid
  have keys : (schema.fields.map fun field => (field.name, Value.null)).map Prod.fst =
      schema.fields.map Field.name := by
    rw [List.map_map]
    rfl
  let values : Values := ⟨schema.fields.map fun field => (field.name, .null), keys ▸ wellFormed.distinct⟩
  have accepts : schema.Accepts .utc values := by
    intro entry member
    obtain ⟨field, fieldMember, rfl⟩ := List.mem_map.mp member
    exact ⟨field, wellFormed.field?_name fieldMember, .null field.kind⟩
  obtain ⟨cells, made, holds⟩ := Schema.newRow_ok wellFormed rfl accepts
  have columns : cells.map Prod.fst = schema.fields.map Field.column := by
    have each := Schema.columns_of_forall₂ Prod.fst
      (fun entry cell ⟨field, found, column, _⟩ => ⟨field, found, column⟩) holds
    rw [each, List.map_map]
    exact List.map_congr_left fun field member =>
      Schema.column_of_field? (wellFormed.field?_name member)
  have row : schema.newRow (store.hooks "") store.dialect.zone values =
      .ok ⟨⟨schema.table, cells⟩, none⟩ := made
  obtain ⟨succeeded, called⟩ := called_create values known
  rw [row] at called
  exact ⟨store, values, cells, succeeded, rfl, known, columns, called⟩

end Store

/-- Of a valid schema, no operation sends a statement that writes a column twice, or the identifier
through a field, if and only if its columns are apart.  To be valid is not enough: that the identifier
is no field says nothing of what fields are renamed to. -/
theorem writes_apart_iff {declaration : Declaration} {schema : Schema}
    (valid : declaration.schema = .ok schema) :
    (∀ {σ : Type} (store : Store σ) (operation : Operation), operation.Concerns schema store →
        operation.session.Sends store
          (Call.WritesApart schema store.dialect (operation.generated store))) ↔
      schema.ColumnsApart := by
  constructor
  · intro all
    obtain ⟨store, values, cells, succeeded, dialect, known, columns, called⟩ :=
      Store.called_create_nulls valid
    obtain ⟨made, again, writes⟩ := all store (.create "" values) (.create "" values known)
    rw [Operation.session, Session.after_done] at again
    obtain rfl := called.unique again
    obtain ⟨others, apart, same⟩ := (writes _ (List.mem_singleton.mpr rfl)).insert
    rw [dialect] at same
    have legible : Sql.Dialect.standard.Legible := by decide
    have read := Sql.inserted?_statement ⟨schema.table, cells⟩ legible
    rw [same, Sql.inserted?_statement _ legible] at read
    obtain rfl : others = cells := congrArg Sql.Insert.cells (Option.some.inj read)
    rwa [columns] at apart
  · intro apart σ store operation concerns
    obtain ⟨made, called, sent⟩ := concerns.sends
    exact ⟨made, called, fun call member => (sent call member).writesApart valid apart⟩

namespace Store

def codes : Declaration where
  table := "codes"
  fields := [("code", none)]
  renames := [("code", "id")]

def codesSchema : Schema where
  table := "codes"
  idColumn := "id"
  fields := [⟨"code", .string, "id"⟩]
  saveFields := ["code"]
  groupBy := []
  deletion := .hard

def codesStore : Store Unit :=
  Store.new (answering []) () .standard (Catalog.ofEntities fun _ => { declaration := codes })

/-- The declaration is valid, but with the code the identifier is written, in a new row and in one that
is there. -/
theorem identifier_written_as_code :
    let values : Values := ⟨[("code", .str "A1")], by decide⟩
    let record : Record := ⟨"Code", codesSchema, .int 1, [.str "A2"]⟩
    codes.schema = .ok codesSchema ∧
      (runOn (create "Code" values) codesStore).2.journal =
        [.call (.insert ⟨"INSERT INTO `codes` (`id`) VALUES (?)", [(Cell.str "A1").param]⟩) true] ∧
      (runOn (save record none) codesStore).2.journal =
        [.call (.exec ⟨"UPDATE `codes` SET `id` = ? WHERE (`codes`.`id` = ?)",
          [(Cell.str "A2").param, (Cell.int 1).param]⟩) true] := by
  refine ⟨rfl, ?_, ?_⟩
  · decide +kernel
  · decide +kernel

theorem writes_apart_crossed :
    crossed.schema = .ok crossedSchema ∧ crossedSchema.ColumnsApart ∧
      (Operation.session (.create "Person" crossedValues)).Sends crossedStore
        (Call.WritesApart crossedSchema .standard none) ∧
      ¬ codesSchema.ColumnsApart := by
  have valid : crossed.schema = .ok crossedSchema := rfl
  have apart : crossedSchema.ColumnsApart := by decide
  have known : (runOn (Store.schema "Person") crossedStore).1 = .ok crossedSchema := rfl
  have sends := (writes_apart_iff valid).mpr apart crossedStore (.create "Person" crossedValues)
    (.create "Person" crossedValues known)
  exact ⟨valid, apart, sends, by decide⟩

end Store

end RecordMapper
