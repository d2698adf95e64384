import RecordMapper.Proofs.Sql.Command
import RecordMapper.Proofs.Store.Found
import RecordMapper.Proofs.Store.Operation
/-! # Work on records

Code that uses a store without beginning, committing or rolling back works on records only
(`Session.OnRecords`).  It looks at the store, declares entities and looks them up, sends statements,
warns, and goes on as it likes with what comes of that, faults included.  Such code leaves transactions
as they are (`OnRecords.workedOn`).  All operations but the three that control transactions are made of
such work (`Operation.onRecords`), and every statement that they send comes from a builder
(`Operation.confined`). -/
set_option autoImplicit false
namespace RecordMapper

open Session (runOn)

/-- Statements are all that was sent, and a transaction is open or not as before. -/
structure Store.WorkedOn {σ : Type} (store after : Store σ) (made : List (Call × Bool)) : Prop where
  called : store.Called after made
  inTransaction : after.inTransaction = store.inTransaction
  statements : ∀ entry ∈ made, entry.1.isStatement = true

theorem Store.WorkedOn.trans {σ : Type} {store middle after : Store σ}
    {first second : List (Call × Bool)} (here : store.WorkedOn middle first)
    (there : middle.WorkedOn after second) : store.WorkedOn after (first ++ second) where
  called := here.called.trans there.called
  inTransaction := there.inTransaction.trans here.inTransaction
  statements := by
    intro entry member
    rcases List.mem_append.mp member with member | member
    · exact here.statements entry member
    · exact there.statements entry member

inductive Call.Built : Call → Prop
  | query (select : Sql.Select) (dialect : Sql.Dialect) : Built (.query (select.statement dialect))
  | exec (command : Sql.Command) (dialect : Sql.Dialect) : Built (.exec (command.statement dialect))
  | insert (row : Sql.Insert) (dialect : Sql.Dialect) : Built (.insert (row.statement dialect))

theorem Call.Built.isStatement {call : Call} (built : call.Built) : call.isStatement = true := by
  cases built <;> rfl

inductive Session.OnRecords {σ : Type} : {α : Type} → Session σ α → Prop
  | value {α : Type} (a : α) : OnRecords (pure a)
  | fault {α : Type} (fault : Fault) : OnRecords (throw fault : Session σ α)
  | look : OnRecords (get : Session σ (Store σ))
  | lookUp (entity : String) : OnRecords (Store.schema entity)
  | declare (name : String) (entity : Entity) : OnRecords (Store.define name entity)
  | send (call : Call) (statement : call.isStatement = true) : OnRecords (Store.perform call)
  | warn (warning : Warning) : OnRecords (Store.warn warning)
  | andThen {α β : Type} {session : Session σ α} {next : α → Session σ β}
      (first : OnRecords session) (others : ∀ a, OnRecords (next a)) : OnRecords (session >>= next)
  | recover {α : Type} {session : Session σ α} {handle : Fault → Session σ α}
      (first : OnRecords session) (others : ∀ fault, OnRecords (handle fault)) :
      OnRecords (tryCatch session handle)

/-- Work on records that declares nothing and makes no call without the property. -/
inductive Session.Confined {σ : Type} (P : Call → Prop) : {α : Type} → Session σ α → Prop
  | value {α : Type} (a : α) : Confined P (pure a)
  | fault {α : Type} (fault : Fault) : Confined P (throw fault : Session σ α)
  | look : Confined P (get : Session σ (Store σ))
  | lookUp (entity : String) : Confined P (Store.schema entity)
  | send (call : Call) (has : P call) : Confined P (Store.perform call)
  | warn (warning : Warning) : Confined P (Store.warn warning)
  | andThen {α β : Type} {session : Session σ α} {next : α → Session σ β}
      (first : Confined P session) (others : ∀ a, Confined P (next a)) :
      Confined P (session >>= next)
  | recover {α : Type} {session : Session σ α} {handle : Fault → Session σ α}
      (first : Confined P session) (others : ∀ fault, Confined P (handle fault)) :
      Confined P (tryCatch session handle)

namespace Session
variable {σ α β : Type} {P : Call → Prop}

theorem Confined.onRecords {session : Session σ α} (confined : session.Confined P)
    (statements : ∀ call, P call → call.isStatement = true) : session.OnRecords := by
  induction confined with
  | value a => exact .value a
  | fault fault => exact .fault fault
  | look => exact .look
  | lookUp entity => exact .lookUp entity
  | send call has => exact .send call (statements call has)
  | warn warning => exact .warn warning
  | andThen _ _ ih others => exact .andThen ih others
  | recover _ _ ih others => exact .recover ih others

theorem OnRecords.workedOn {session : Session σ α} (work : session.OnRecords) (store : Store σ) :
    ∃ made, store.WorkedOn (runOn session store).2 made := by
  induction work generalizing store with
  | value a => exact ⟨[], .refl store, rfl, by simp⟩
  | fault fault => exact ⟨[], .refl store, rfl, by simp⟩
  | look => exact ⟨[], .refl store, rfl, by simp⟩
  | lookUp entity =>
      exact ⟨[], Store.called_schema entity store, (Store.agrees_schema entity store).inTransaction,
        by simp⟩
  | declare name entity => exact ⟨[], ⟨[], (List.append_nil _).symm, rfl⟩, rfl, by simp⟩
  | send call statement =>
      refine ⟨_, Store.called_ask store call, rfl, fun entry member => ?_⟩
      obtain rfl := List.mem_singleton.mp member
      exact statement
  | warn warning => exact ⟨[], Store.called_warning store warning, rfl, by simp⟩
  | andThen _ _ ih others =>
      obtain ⟨made, here⟩ := ih store
      rw [runOn_bind]
      rcases ran : runOn _ store with ⟨fault | a, after⟩
      · rw [ran] at here
        exact ⟨made, here⟩
      · rw [ran] at here
        obtain ⟨later, there⟩ := others a after
        exact ⟨made ++ later, here.trans there⟩
  | recover _ _ ih others =>
      obtain ⟨made, here⟩ := ih store
      rw [runOn_tryCatch]
      rcases ran : runOn _ store with ⟨fault | a, after⟩
      · rw [ran] at here
        obtain ⟨later, there⟩ := others fault after
        exact ⟨made ++ later, here.trans there⟩
      · rw [ran] at here
        exact ⟨made, here⟩

theorem confined_ofMisuse (result : Except Misuse α) :
    (ofMisuse result : Session σ α).Confined P := by
  cases result with
  | error cause => exact .fault _
  | ok a => exact .value a

theorem confined_require (context : String) {call : Call} (has : P call) :
    (Store.require context call : Session σ call.Reply).Confined P := by
  refine .andThen (.send call has) fun reply => ?_
  cases reply with
  | error message => exact .fault _
  | ok reply => exact .value reply

theorem Confined.done {session : Session σ α} (confined : session.Confined P) :
    session.done.Confined P :=
  .andThen confined fun _ => .value ()

theorem confined_outcome {session : Session σ Nat} (confined : session.Confined P)
    (record : Record) : (lifted (Store.outcome session record)).Confined P := by
  have caught : lifted (Store.outcome session record) =
      tryCatch (do let affected ← session; pure ⟨.ok affected, record⟩)
        fun fault => pure ⟨.error fault, record⟩ := by
    refine ext fun store => ?_
    rw [runOn_lifted, Store.outcome, runOn_tryCatch, runOn_bind]
    rcases runOn session store with ⟨_ | _, _⟩ <;> rfl
  rw [caught]
  exact .recover (.andThen confined fun affected => .value _) fun fault => .value _

theorem Confined.ofOutcome {run : StateM (Store σ) Outcome}
    (confined : (lifted run).Confined P) : (Session.ofOutcome run).Confined P := by
  refine .andThen confined fun outcome => ?_
  cases outcome.result with
  | error fault => exact .fault fault
  | ok affected => exact .value affected

end Session

namespace Store
open Session
variable {σ : Type}

theorem confined_create (entity : String) (values : Values) :
    (create entity values : Session σ Record).Confined Call.Built := by
  refine .andThen (.lookUp entity) fun schema => .andThen .look fun store => ?_
  dsimp only
  cases schema.newRow (store.hooks entity) store.dialect.zone values with
  | error fault => exact .fault fault
  | ok row =>
      obtain ⟨insert, _ | id⟩ := row
      · exact .andThen (confined_require _ (.insert insert store.dialect)) fun _ =>
          confined_ofMisuse _
      · exact .andThen (confined_require _ (.exec (.insert insert) store.dialect)) fun _ =>
          confined_ofMisuse _

theorem confined_save (record : Record) (names : Option (List String)) :
    (save record names : Session σ Nat).Confined Call.Built := by
  refine .andThen .look fun store => ?_
  cases record.update? (store.hooks record.entity) store.dialect.zone names with
  | error fault => exact .fault fault
  | ok update =>
      cases update with
      | none => exact .value 0
      | some update => exact confined_require _ (.exec (.update update) store.dialect)

theorem confined_deleteRow (record : Record) :
    (deleteRow record : Session σ Nat).Confined Call.Built := by
  refine .andThen .look fun store => ?_
  cases record.delete with
  | error cause => exact .fault _
  | ok delete => exact confined_require _ (.exec (.delete delete) store.dialect)

theorem confined_setAndSave (record : Record) (values : Values) :
    (lifted (setAndSave record values) : Session σ Outcome).Confined Call.Built := by
  rw [setAndSave]
  cases record.setFields values with
  | error cause => exact .value _
  | ok changed => exact confined_outcome (confined_save changed _) changed

theorem confined_flag (record : Record) (name : String) (active : Bool) :
    (lifted (flag record name active) : Session σ Outcome).Confined Call.Built := by
  rw [flag]
  cases record.set name (.bool active) with
  | error cause => exact .value _
  | ok changed => exact confined_outcome (confined_save changed _) changed

theorem confined_delete (record : Record) :
    (lifted (delete record) : Session σ Outcome).Confined Call.Built := by
  rw [delete]
  cases record.schema.deletion with
  | hard => exact confined_outcome (confined_deleteRow record) record
  | soft name =>
      cases record.isActive with
      | false => exact .value _
      | true => exact confined_flag record name false

theorem confined_activate (record : Record) :
    (lifted (activate record) : Session σ Outcome).Confined Call.Built := by
  rw [activate]
  cases record.schema.deletion with
  | hard => exact .value _
  | soft name =>
      cases record.isActive with
      | false => exact confined_flag record name true
      | true => exact .value _

theorem confined_keepReadable (table : String) (rows : List (Except Fault Record × Nat)) :
    (keepReadable table rows : Session σ (List Record)).Confined Call.Built := by
  induction rows with
  | nil => exact .value []
  | cons row rest ih =>
      obtain ⟨fault | record, index⟩ := row
      · exact .andThen (.warn _) fun _ => ih
      · exact .andThen ih fun others => .value _

theorem confined_search (entity : String) (request : Search) :
    (search entity request : Session σ (List Record)).Confined Call.Built := by
  refine .andThen (.lookUp entity) fun schema => .andThen .look fun store =>
    .andThen (.send _ (.query (request.select schema) store.dialect)) fun reply => ?_
  cases reply with
  | error message => exact .andThen (.warn _) fun _ => .value []
  | ok rows => exact confined_keepReadable _ _

theorem confined_searchActive (entity : String) (request : Search) :
    (searchActive entity request : Session σ (List Record)).Confined Call.Built := by
  refine .andThen (.lookUp entity) fun schema => ?_
  cases schema.deletion with
  | hard => exact .fault _
  | soft flag =>
      dsimp only
      split
      · exact confined_search entity request
      · exact confined_search entity _

theorem confined_searchOne (entity : String) (request : Search) :
    (searchOne entity request : Session σ (Option Record)).Confined Call.Built := by
  refine .andThen (confined_search entity request) fun records => ?_
  split
  · exact .value _
  · exact .value none

theorem confined_searchKnown (entity field : String) (request : Search) :
    (searchKnown entity field request : Session σ (List Record)).Confined Call.Built :=
  .andThen (.lookUp entity) fun _ => .andThen (confined_ofMisuse _) fun _ =>
    confined_search entity request

theorem confined_searchField (entity field : String) (request : Search) :
    (searchField entity field request : Session σ (List Value)).Confined Call.Built :=
  .andThen (confined_searchKnown entity field request) fun _ => confined_ofMisuse _

theorem confined_searchIndexed (entity field : String) (request : Search) :
    (searchIndexed entity field request : Session σ (SortedMap Record)).Confined Call.Built :=
  .andThen (confined_searchKnown entity field request) fun _ =>
    .andThen (confined_ofMisuse _) fun _ => .value _

theorem confined_searchGrouped (entity field : String) (request : Search) :
    (searchGrouped entity field request : Session σ (SortedMap (List Record))).Confined Call.Built :=
  .andThen (confined_searchKnown entity field request) fun _ =>
    .andThen (confined_ofMisuse _) fun _ => .value _

theorem onRecords_create (entity : String) (values : Values) :
    (create entity values : Session σ Record).OnRecords :=
  (confined_create entity values).onRecords fun _ => Call.Built.isStatement

end Store

namespace Operation
variable {σ : Type}

theorem confined (operation : Operation) (records : operation.isControl = false) :
    (operation.session : Session σ Unit).Confined Call.Built := by
  cases operation with
  | begin => cases records
  | commit => cases records
  | rollback => cases records
  | create entity values => exact (Store.confined_create entity values).done
  | save record names => exact (Store.confined_save record names).done
  | setAndSave record values => exact (Store.confined_setAndSave record values).ofOutcome.done
  | delete record => exact (Store.confined_delete record).ofOutcome.done
  | activate record => exact (Store.confined_activate record).ofOutcome.done
  | search entity request => exact (Store.confined_search entity request).done
  | searchActive entity request => exact (Store.confined_searchActive entity request).done
  | searchOne entity request => exact (Store.confined_searchOne entity request).done
  | searchFirst entity request => exact (Store.confined_searchOne entity _).done
  | searchIndexed entity field request =>
      exact (Store.confined_searchIndexed entity field request).done
  | searchGrouped entity field request =>
      exact (Store.confined_searchGrouped entity field request).done
  | searchField entity field request =>
      exact (Store.confined_searchField entity field request).done

theorem onRecords (operation : Operation) (records : operation.isControl = false) :
    (operation.session : Session σ Unit).OnRecords :=
  (operation.confined records).onRecords fun _ => Call.Built.isStatement

end Operation

end RecordMapper
