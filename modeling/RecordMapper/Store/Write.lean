import RecordMapper.Record
import RecordMapper.Sql.Delete
import RecordMapper.Sql.Insert
import RecordMapper.Sql.Update
import RecordMapper.Store.Session
/-! # Writing to a store

What is to be written is checked and converted first; then the backend is called, at most once.
Operations that change a record in memory return it also when they fail. -/
set_option autoImplicit false
namespace RecordMapper

open RecordMapper.Filter (Conditions Operand)

namespace Schema

def refuseIdentifier (schema : Schema) (names : List String) : Except Misuse Unit :=
  if names.contains schema.idColumn then .error (.identifierWritten schema.table schema.idColumn)
  else .ok ()

theorem refuseIdentifier_eq_ok_iff {schema : Schema} {names : List String} :
    schema.refuseIdentifier names = .ok () ↔ schema.idColumn ∉ names := by
  rw [refuseIdentifier]
  by_cases written : schema.idColumn ∈ names <;> simp [written]

def storedCell (schema : Schema) (hooks : Hooks) (zone : Calendar.Offset) (name : String)
    (value : Value) : Except Fault (String × Cell) :=
  match schema.field? name with
  | none => .error (.misuse (.unknownField schema.table name))
  | some field =>
    match (hooks.onStore name value).toStorage field.kind zone with
    | .ok cell => .ok (field.column, cell)
    | .error cause => .error (.conversion name cause)

def storedCells (schema : Schema) (hooks : Hooks) (zone : Calendar.Offset) (values : Values) :
    Except Fault (List (String × Cell)) :=
  values.entries.mapM fun entry => schema.storedCell hooks zone entry.1 entry.2

def identifierCondition (schema : Schema) (id : Value) : Conditions :=
  OrderedMap.ofList [(schema.idColumn, Operand.ofValue id)]

end Schema

structure NewRow where
  insert : Sql.Insert
  supplied : Option Value

def Schema.newRow (schema : Schema) (hooks : Hooks) (zone : Calendar.Offset) (values : Values) :
    Except Fault NewRow := do
  Fault.ofMisuse (schema.checkFields values.keys)
  Fault.ofMisuse (schema.refuseIdentifier values.keys)
  let cells ← schema.storedCells hooks zone values
  match hooks.generateId values with
  | none => pure ⟨⟨schema.table, cells⟩, none⟩
  | some id =>
    match id.toParam zone with
    | none => throw (.misuse (.nullIdentifier schema.table))
    | some param => pure ⟨⟨schema.table, cells ++ [(schema.idColumn, param.value)]⟩, some id⟩

namespace Record

def fieldsToSave (record : Record) : Option (List String) → Except Misuse (List String)
  | none => .ok record.schema.saveFields
  | some names => do
    record.schema.checkFields names
    record.schema.refuseIdentifier names
    pure names

/-- The statement that writes fields of a record; none if there are no fields. -/
def update? (record : Record) (hooks : Hooks) (zone : Calendar.Offset)
    (names : Option (List String)) : Except Fault (Option Sql.Update) := do
  if record.id.isNull then throw (.misuse (.savedWithoutIdentifier record.schema.table))
  let names ← Fault.ofMisuse (record.fieldsToSave names)
  if names.isEmpty then pure none
  else
    let values ← Fault.ofMisuse (record.getFields (some names))
    let cells ← record.schema.storedCells hooks zone values
    pure (some
      { table := record.schema.table
        cells := cells
        conditions := record.schema.identifierCondition record.id
        compose := .and })

def label (record : Record) : String :=
  Misuse.tick record.schema.table ++ " " ++ record.id.text

def delete (record : Record) : Except Misuse Sql.Delete :=
  if record.id.isNull then .error (.deletedWithoutIdentifier record.schema.table)
  else .ok
    { table := record.schema.table
      conditions := record.schema.identifierCondition record.id
      compose := .and }

end Record

/-- How an operation on a record ended, and the record as it is then. -/
structure Outcome where
  result : Except Fault Nat
  record : Record

namespace Store
open Session
variable {σ : Type}

/-- Inserts a new record.  It holds the values as they were given. -/
def create (entity : String) (values : Values) : Session σ Record := do
  let schema ← schema entity
  let store ← get
  let context := "inserting into " ++ Misuse.tick schema.table
  match schema.newRow (store.hooks entity) store.dialect.zone values with
  | .error fault => throw fault
  | .ok row => do
    let statement := row.insert.statement store.dialect
    let id ← match row.supplied with
      | some id => do
        let _ ← require context (.exec statement)
        pure id
      | none => do
        let id ← require context (.insert statement)
        pure (.int id)
    ofMisuse ((Record.blank entity schema id).setFields values)

theorem runOn_create (entity : String) (values : Values) (store : Store σ) :
    runOn (create entity values) store =
      match runOn (schema entity) store with
      | (.error fault, after) => (.error fault, after)
      | (.ok schema, known) =>
        let context := "inserting into " ++ Misuse.tick schema.table
        let filled (id : Value) :=
          Fault.ofMisuse ((Record.blank entity schema id).setFields values)
        match schema.newRow (known.hooks entity) known.dialect.zone values with
        | .error fault => (.error fault, known)
        | .ok ⟨insert, some id⟩ =>
          match known.ask (.exec (insert.statement known.dialect)) with
          | (.error message, after) => (.error (.store context [message]), after)
          | (.ok _, after) => (filled id, after)
        | .ok ⟨insert, none⟩ =>
          match known.ask (.insert (insert.statement known.dialect)) with
          | (.error message, after) => (.error (.store context [message]), after)
          | (.ok id, after) => (filled (.int id), after) := by
  simp only [create, runOn_bind]
  rcases runOn (schema entity) store with ⟨_ | found, known⟩
  · rfl
  · simp only [runOn_get]
    rcases found.newRow (known.hooks entity) known.dialect.zone values with _ | ⟨insert, _ | id⟩
    · rfl
    · simp only [runOn_bind, runOn_require]
      rcases known.ask _ with ⟨_ | _, _⟩
      · rfl
      · exact runOn_ofMisuse _ _
    · simp only [runOn_bind, runOn_require]
      rcases known.ask _ with ⟨_ | _, _⟩
      · rfl
      · exact runOn_ofMisuse _ _

def save (record : Record) (names : Option (List String)) : Session σ Nat := do
  let store ← get
  match record.update? (store.hooks record.entity) store.dialect.zone names with
  | .error fault => throw fault
  | .ok none => pure 0
  | .ok (some update) => do
    let statement := update.statement store.dialect
    require ("updating " ++ record.label) (.exec statement)

theorem runOn_save (record : Record) (names : Option (List String)) (store : Store σ) :
    runOn (save record names) store =
      match record.update? (store.hooks record.entity) store.dialect.zone names with
      | .error fault => (.error fault, store)
      | .ok none => (.ok 0, store)
      | .ok (some update) =>
        match store.ask (.exec (update.statement store.dialect)) with
        | (.error message, after) =>
          (.error (.store ("updating " ++ record.label) [message]), after)
        | (.ok affected, after) => (.ok affected, after) := by
  simp only [save, runOn_bind, runOn_get]
  rcases record.update? (store.hooks record.entity) store.dialect.zone names with
    _ | ⟨_ | update⟩
  · rfl
  · rfl
  · refine (runOn_require _ _ store).trans ?_
    dsimp only
    rcases store.ask _ with ⟨_ | _, _⟩ <;> rfl

def outcome (session : Session σ Nat) (record : Record) : StateM (Store σ) Outcome := fun store =>
  let (result, after) := session.runOn store
  (⟨result, record⟩, after)

def setAndSave (record : Record) (values : Values) : StateM (Store σ) Outcome :=
  match record.setFields values with
  | .error cause => pure ⟨.error (.misuse cause), record⟩
  | .ok changed => outcome (save changed (some values.keys)) changed

def deleteRow (record : Record) : Session σ Nat := do
  let store ← get
  match record.delete with
  | .error cause => throw (.misuse cause)
  | .ok delete => do
    let statement := delete.statement store.dialect
    require ("deleting from " ++ record.label) (.exec statement)

theorem runOn_deleteRow (record : Record) (store : Store σ) :
    runOn (deleteRow record) store =
      match record.delete with
      | .error cause => (.error (.misuse cause), store)
      | .ok delete =>
        match store.ask (.exec (delete.statement store.dialect)) with
        | (.error message, after) =>
          (.error (.store ("deleting from " ++ record.label) [message]), after)
        | (.ok affected, after) => (.ok affected, after) := by
  simp only [deleteRow, runOn_bind, runOn_get]
  rcases record.delete with _ | delete
  · rfl
  · refine (runOn_require _ _ store).trans ?_
    dsimp only
    rcases store.ask _ with ⟨_ | _, _⟩ <;> rfl

def flag (record : Record) (name : String) (active : Bool) : StateM (Store σ) Outcome :=
  match record.set name (.bool active) with
  | .error cause => pure ⟨.error (.misuse cause), record⟩
  | .ok changed => outcome (save changed (some [name])) changed

/-- Deletes a record as its entity says.  A record that is not active is left alone. -/
def delete (record : Record) : StateM (Store σ) Outcome :=
  match record.schema.deletion with
  | .hard => outcome (deleteRow record) record
  | .soft name => if record.isActive then flag record name false else pure ⟨.ok 0, record⟩

def activate (record : Record) : StateM (Store σ) Outcome :=
  match record.schema.deletion with
  | .hard => pure ⟨.error (.misuse (.noSoftDelete record.schema.table)), record⟩
  | .soft name => if record.isActive then pure ⟨.ok 0, record⟩ else flag record name true

end Store

end RecordMapper
