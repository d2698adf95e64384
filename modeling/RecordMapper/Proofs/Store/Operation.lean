import RecordMapper.Store.Search
import RecordMapper.Store.Transaction
import RecordMapper.Store.Write
/-! # The operations of a store

What a caller can ask of a store, apart from the transactions that run code of the caller's.  An
operation is a session whose value is left out, so that only the fault of it counts. -/
set_option autoImplicit false
namespace RecordMapper

inductive Operation
  | begin
  | commit
  | rollback
  | create (entity : String) (values : Values)
  | save (record : Record) (names : Option (List String))
  | setAndSave (record : Record) (values : Values)
  | delete (record : Record)
  | activate (record : Record)
  | search (entity : String) (request : Search)
  | searchActive (entity : String) (request : Search)
  | searchOne (entity : String) (request : Search)
  | searchFirst (entity : String) (request : Search)
  | searchIndexed (entity field : String) (request : Search)
  | searchGrouped (entity field : String) (request : Search)
  | searchField (entity field : String) (request : Search)

namespace Session
variable {σ α : Type}

def done (session : Session σ α) : Session σ Unit := do
  let _ ← session
  pure ()

/-- An operation that returns a record even if it fails, as a part of a session. -/
def lifted (run : StateM (Store σ) Outcome) : Session σ Outcome := liftM run

def ofOutcome (run : StateM (Store σ) Outcome) : Session σ Nat := do
  let outcome ← lifted run
  match outcome.result with
  | .ok affected => pure affected
  | .error fault => throw fault

theorem ext {first second : Session σ α} (same : ∀ store, runOn first store = runOn second store) :
    first = second := funext same

theorem runOn_lifted (run : StateM (Store σ) Outcome) (store : Store σ) :
    runOn (lifted run) store = (.ok (run store).1, (run store).2) := rfl

theorem runOn_ofOutcome (run : StateM (Store σ) Outcome) (store : Store σ) :
    runOn (ofOutcome run) store = ((run store).1.result, (run store).2) := by
  rw [ofOutcome, runOn_bind, runOn_lifted]
  dsimp only
  cases (run store).1.result <;> rfl

theorem ofOutcome_outcome (session : Session σ Nat) (record : Record) :
    ofOutcome (Store.outcome session record) = session :=
  ext fun store => by rw [runOn_ofOutcome]; rfl

theorem ofOutcome_setAndSave (record : Record) (values : Values) :
    (ofOutcome (Store.setAndSave record values) : Session σ Nat) = (do
      let changed ← ofMisuse (record.setFields values)
      Store.save changed (some values.keys)) := by
  rw [Store.setAndSave]
  cases record.setFields values with
  | error cause => rfl
  | ok changed => exact ofOutcome_outcome _ changed

theorem ofOutcome_flag (record : Record) (name : String) (active : Bool) :
    (ofOutcome (Store.flag record name active) : Session σ Nat) = (do
      let changed ← ofMisuse (record.set name (.bool active))
      Store.save changed (some [name])) := by
  rw [Store.flag]
  cases record.set name (.bool active) with
  | error cause => rfl
  | ok changed => exact ofOutcome_outcome _ changed

theorem ofOutcome_delete (record : Record) :
    (ofOutcome (Store.delete record) : Session σ Nat) =
      match record.schema.deletion with
      | .hard => Store.deleteRow record
      | .soft name =>
        if record.isActive then ofOutcome (Store.flag record name false) else pure 0 := by
  rw [Store.delete]
  cases record.schema.deletion with
  | hard => exact ofOutcome_outcome _ record
  | soft name => cases record.isActive <;> rfl

theorem ofOutcome_activate (record : Record) :
    (ofOutcome (Store.activate record) : Session σ Nat) =
      match record.schema.deletion with
      | .hard => throw (.misuse (.noSoftDelete record.schema.table))
      | .soft name =>
        if record.isActive then pure 0 else ofOutcome (Store.flag record name true) := by
  rw [Store.activate]
  cases record.schema.deletion with
  | hard => rfl
  | soft name => cases record.isActive <;> rfl

end Session

namespace Operation
variable {σ : Type}

def session : Operation → Session σ Unit
  | .begin => Store.begin
  | .commit => Store.commit
  | .rollback => Store.rollback
  | .create entity values => (Store.create entity values).done
  | .save record names => (Store.save record names).done
  | .setAndSave record values => (Session.ofOutcome (Store.setAndSave record values)).done
  | .delete record => (Session.ofOutcome (Store.delete record)).done
  | .activate record => (Session.ofOutcome (Store.activate record)).done
  | .search entity request => (Store.search entity request).done
  | .searchActive entity request => (Store.searchActive entity request).done
  | .searchOne entity request => (Store.searchOne entity request).done
  | .searchFirst entity request => (Store.searchFirst entity request).done
  | .searchIndexed entity field request => (Store.searchIndexed entity field request).done
  | .searchGrouped entity field request => (Store.searchGrouped entity field request).done
  | .searchField entity field request => (Store.searchField entity field request).done

def isSearch : Operation → Bool
  | .search .. | .searchActive .. | .searchOne .. | .searchFirst .. | .searchIndexed ..
  | .searchGrouped .. | .searchField .. => true
  | _ => false

def isControl : Operation → Bool
  | .begin | .commit | .rollback => true
  | _ => false

/-- The store after operations one after another, each whether the ones before it failed or not. -/
def runAll (operations : List Operation) (store : Store σ) : Store σ :=
  operations.foldl (fun store operation => (operation.session.runOn store).2) store

end Operation

end RecordMapper
