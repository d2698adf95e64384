import RecordMapper.Proofs.Store.Identifier
import RecordMapper.Proofs.Store.Operation
/-! # What operations send

Every call of an operation that writes is one of three: it inserts a row, or updates or removes the row
of a record (`Operation.Concerns.sends`).  Each sends one statement at most, which is the one that its
checks have come to. -/
set_option autoImplicit false
namespace RecordMapper

open Session (runOn)

namespace Session
variable {σ α : Type}

def Sends (session : Session σ α) (store : Store σ) (P : Call → Prop) : Prop :=
  ∃ made, store.Called (runOn session store).2 made ∧ ∀ call ∈ made, P call.1

theorem sends_nothing {session : Session σ α} {store : Store σ} {result : Except Fault α}
    (ended : runOn session store = (result, store)) (P : Call → Prop) : session.Sends store P := by
  refine ⟨[], ?_, by simp⟩
  rw [ended]
  exact .refl store

theorem sends_one {session : Session σ α} {store : Store σ} {call : Call} {P : Call → Prop}
    (called : ∃ succeeded, store.Called (runOn session store).2 [(call, succeeded)]) (has : P call) :
    session.Sends store P := by
  obtain ⟨succeeded, called⟩ := called
  refine ⟨_, called, fun other member => ?_⟩
  obtain rfl := List.mem_singleton.mp member
  exact has

theorem after_done (session : Session σ α) (store : Store σ) :
    (runOn session.done store).2 = (runOn session store).2 := by
  rw [Session.done, runOn_bind]
  rcases runOn session store with ⟨_ | _, _⟩ <;> rfl

theorem Sends.done {session : Session σ α} {store : Store σ} {P : Call → Prop}
    (sends : session.Sends store P) : session.done.Sends store P := by
  unfold Sends
  rw [after_done]
  exact sends

end Session

def NewRow.call (row : NewRow) (dialect : Sql.Dialect) : Call :=
  match row.supplied with
  | some _ => .exec (row.insert.statement dialect)
  | none => .insert (row.insert.statement dialect)

namespace Operation
variable {σ : Type} {schema : Schema} {store : Store σ}

/-- The operation writes an entity of this schema, or a record of it. -/
inductive Concerns (schema : Schema) (store : Store σ) : Operation → Prop
  | create (entity : String) (values : Values)
      (known : (runOn (Store.schema entity) store).1 = .ok schema) :
      Concerns schema store (.create entity values)
  | save (record : Record) (names : Option (List String)) (same : record.schema = schema) :
      Concerns schema store (.save record names)
  | setAndSave (record : Record) (values : Values) (same : record.schema = schema) :
      Concerns schema store (.setAndSave record values)
  | delete (record : Record) (same : record.schema = schema) : Concerns schema store (.delete record)
  | activate (record : Record) (same : record.schema = schema) :
      Concerns schema store (.activate record)

/-- What an operation may send. -/
inductive Sent (schema : Schema) (store : Store σ) : Operation → Call → Prop
  | row {entity : String} {values : Values} (row : NewRow)
      (made : schema.newRow (store.hooks entity) store.dialect.zone values = .ok row) :
      Sent schema store (.create entity values) (row.call store.dialect)
  | update {operation : Operation} (record : Record) (same : record.schema = schema)
      (names : Option (List String)) (update : Sql.Update)
      (given : record.update? (store.hooks record.entity) store.dialect.zone names =
        .ok (some update)) :
      Sent schema store operation (.exec (update.statement store.dialect))
  | removal {operation : Operation} (record : Record) (same : record.schema = schema)
      (removal : Sql.Delete) (given : record.delete = .ok removal) :
      Sent schema store operation (.exec (removal.statement store.dialect))

end Operation

namespace Store
open Session (Sends sends_nothing sends_one)
open Operation (Sent)
variable {σ : Type} {schema : Schema} {store : Store σ} {operation : Operation}

theorem called_create {entity : String} (values : Values)
    (known : (runOn (Store.schema entity) store).1 = .ok schema) :
    ∃ succeeded, store.Called (runOn (create entity values) store).2
      (match schema.newRow (store.hooks entity) store.dialect.zone values with
      | .ok row => [(row.call store.dialect, succeeded)]
      | .error _ => []) := by
  obtain ⟨after, found, agrees, looked⟩ := exists_looked known
  rw [runOn_create, found]
  dsimp only
  rw [agrees.hooks entity, agrees.dialect]
  rcases schema.newRow (store.hooks entity) store.dialect.zone values with fault | ⟨insert, _ | id⟩
  · exact ⟨false, looked⟩
  · have asked := called_ask after (.insert (insert.statement store.dialect))
    dsimp only
    generalize after.ask (.insert (insert.statement store.dialect)) = reply at asked
    obtain ⟨message | id, later⟩ := reply
    · exact ⟨_, looked.trans asked⟩
    · exact ⟨_, looked.trans asked⟩
  · have asked := called_ask after (.exec (insert.statement store.dialect))
    dsimp only
    generalize after.ask (.exec (insert.statement store.dialect)) = reply at asked
    obtain ⟨message | affected, later⟩ := reply
    · exact ⟨_, looked.trans asked⟩
    · exact ⟨_, looked.trans asked⟩

theorem sends_create {entity : String} {values : Values}
    (known : (runOn (Store.schema entity) store).1 = .ok schema) :
    (create entity values).Sends store (Sent schema store (.create entity values)) := by
  obtain ⟨succeeded, called⟩ := called_create values known
  cases made : schema.newRow (store.hooks entity) store.dialect.zone values with
  | ok row =>
      rw [made] at called
      exact sends_one ⟨succeeded, called⟩ (.row row made)
  | error fault =>
      rw [made] at called
      exact ⟨[], called, by simp⟩

theorem sends_save {record : Record} (same : record.schema = schema)
    (names : Option (List String)) :
    (save record names).Sends store (Sent schema store operation) := by
  rcases given : record.update? (store.hooks record.entity) store.dialect.zone names with
    fault | _ | update
  · exact sends_nothing (by rw [runOn_save, given]) _
  · exact sends_nothing (by rw [runOn_save, given]) _
  · exact sends_one (called_save given) (.update record same names update given)

theorem sends_deleteRow {record : Record} (same : record.schema = schema) :
    (deleteRow record).Sends store (Sent schema store operation) := by
  cases given : record.delete with
  | error cause => exact sends_nothing (by rw [runOn_deleteRow, given]) _
  | ok removal => exact sends_one (called_removal given store) (.removal record same removal given)

/-- What is changed in memory first is a record of the same schema. -/
theorem sends_changed {record : Record} (same : record.schema = schema)
    {change : Except Misuse Record}
    (resembles : ∀ changed, change = .ok changed → record.Resembles changed)
    (names : Option (List String)) :
    (do let changed ← Session.ofMisuse change
        save changed names : Session σ Nat).Sends store (Sent schema store operation) := by
  cases change with
  | error cause => exact sends_nothing rfl _
  | ok changed => exact sends_save ((resembles changed rfl).schema.trans same) names

theorem sends_flag {record : Record} (same : record.schema = schema) (name : String) (active : Bool) :
    (Session.ofOutcome (flag record name active)).Sends store (Sent schema store operation) := by
  rw [Session.ofOutcome_flag]
  exact sends_changed same (fun changed done => Record.set_resembles done) _

theorem sends_delete {record : Record} (same : record.schema = schema) :
    (Session.ofOutcome (delete record)).Sends store (Sent schema store operation) := by
  rw [Session.ofOutcome_delete]
  cases record.schema.deletion with
  | hard => exact sends_deleteRow same
  | soft name =>
      cases record.isActive with
      | false => exact sends_nothing rfl _
      | true => exact sends_flag same name false

theorem sends_activate {record : Record} (same : record.schema = schema) :
    (Session.ofOutcome (activate record)).Sends store (Sent schema store operation) := by
  rw [Session.ofOutcome_activate]
  cases record.schema.deletion with
  | hard => exact sends_nothing rfl _
  | soft name =>
      cases record.isActive with
      | false => exact sends_flag same name true
      | true => exact sends_nothing rfl _

end Store

theorem Operation.Concerns.sends {σ : Type} {schema : Schema} {store : Store σ} {operation : Operation}
    (concerns : operation.Concerns schema store) :
    operation.session.Sends store (operation.Sent schema store) := by
  cases concerns with
  | create entity values known => exact (Store.sends_create known).done
  | save record names same => exact (Store.sends_save same names).done
  | setAndSave record values same =>
      have sends : (Session.ofOutcome (Store.setAndSave record values)).Sends store
          (Operation.Sent schema store (.setAndSave record values)) := by
        rw [Session.ofOutcome_setAndSave]
        exact Store.sends_changed same (fun changed done => Record.setFields_resembles done) _
      exact sends.done
  | delete record same => exact (Store.sends_delete same).done
  | activate record same => exact (Store.sends_activate same).done

end RecordMapper
