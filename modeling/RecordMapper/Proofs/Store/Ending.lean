import RecordMapper.Proofs.Record
import RecordMapper.Proofs.Store.Control
import RecordMapper.Proofs.Store.Found
import RecordMapper.Proofs.Store.Operation
/-! # How operations end

An operation checks everything before it calls the backend.  It is refused before any call, or fails
with its only call, or ends well; a search does not fail (`Operation.endsInTier`).  What is checked
again behind the call cannot go wrong any more: a session that has called is followed by sessions that
are sure to end well (`EndsInTier.bind_sure`). -/
set_option autoImplicit false
namespace RecordMapper

open Calendar (Offset)
open Session (runOn)

/-- How an operation may end, and with which calls. -/
inductive Ending {α : Type} (search : Bool) : Except Fault α → List (Call × Bool) → Prop
  | done (a : α) (made : List (Call × Bool)) : Ending search (.ok a) made
  | refused (fault : Fault) (fatal : fault.isFatal = true) : Ending search (.error fault) []
  | failed (call : Call) (context : String) (causes : List String) (writes : search = false) :
      Ending search (.error (.store context causes)) [(call, false)]

theorem Ending.made_of_fatal {α : Type} {search : Bool} {fault : Fault} {made : List (Call × Bool)}
    (ending : Ending search (.error fault : Except Fault α) made) (fatal : fault.isFatal = true) :
    made = [] := by
  cases ending with
  | refused _ _ => rfl
  | failed _ _ _ _ => cases fatal

/-! ## Faults found before a call -/

namespace Fault
variable {α β : Type}

def OnlyFatal (result : Except Fault α) : Prop := ∀ fault, result = .error fault → fault.isFatal = true

theorem onlyFatal_ok (a : α) : OnlyFatal (.ok a) := by
  intro fault error
  cases error

theorem onlyFatal_error {fault : Fault} (fatal : fault.isFatal = true) :
    OnlyFatal (.error fault : Except Fault α) := by
  intro other error
  obtain rfl := Except.error.inj error
  exact fatal

theorem onlyFatal_ofMisuse (result : Except Misuse α) : OnlyFatal (ofMisuse result) := by
  cases result with
  | error cause => exact onlyFatal_error rfl
  | ok a => exact onlyFatal_ok a

theorem OnlyFatal.bind {result : Except Fault α} {next : α → Except Fault β}
    (first : OnlyFatal result) (others : ∀ a, OnlyFatal (next a)) : OnlyFatal (result >>= next) := by
  cases result with
  | error fault => exact onlyFatal_error (first fault rfl)
  | ok a => exact others a

theorem onlyFatal_mapM {f : α → Except Fault β} (each : ∀ a, OnlyFatal (f a)) (list : List α) :
    OnlyFatal (list.mapM f) := by
  induction list with
  | nil => exact onlyFatal_ok []
  | cons a rest ih =>
      rw [List.mapM_cons]
      exact (each a).bind fun b => ih.bind fun bs => onlyFatal_ok (b :: bs)

end Fault

open Fault (OnlyFatal)

namespace Schema
variable (schema : Schema) (hooks : Hooks) (zone : Offset)

theorem onlyFatal_storedCells (values : Values) :
    OnlyFatal (schema.storedCells hooks zone values) := by
  refine Fault.onlyFatal_mapM (fun entry => ?_) values.entries
  rw [storedCell]
  split
  · exact Fault.onlyFatal_error rfl
  · split
    · exact Fault.onlyFatal_ok _
    · exact Fault.onlyFatal_error rfl

theorem onlyFatal_newRow (values : Values) : OnlyFatal (schema.newRow hooks zone values) := by
  refine (Fault.onlyFatal_ofMisuse _).bind fun _ => (Fault.onlyFatal_ofMisuse _).bind fun _ =>
    (schema.onlyFatal_storedCells hooks zone values).bind fun cells => ?_
  split
  · exact Fault.onlyFatal_ok _
  · split
    · exact Fault.onlyFatal_error rfl
    · exact Fault.onlyFatal_ok _

theorem names_of_newRow {values : Values} {row : NewRow}
    (made : schema.newRow hooks zone values = .ok row) :
    schema.checkFields values.keys = .ok () ∧ schema.idColumn ∉ values.keys := by
  obtain ⟨_, known, made⟩ := ok_of_bind_ok made
  obtain ⟨_, free, -⟩ := ok_of_bind_ok made
  refine ⟨Fault.ofMisuse_eq_ok_iff.mp known, ?_⟩
  exact refuseIdentifier_eq_ok_iff.mp (Fault.ofMisuse_eq_ok_iff.mp free)

end Schema

theorem Record.onlyFatal_update? (record : Record) (hooks : Hooks) (zone : Offset)
    (names : Option (List String)) : OnlyFatal (record.update? hooks zone names) := by
  rw [update?]
  split
  · exact Fault.onlyFatal_error rfl
  · refine (Fault.onlyFatal_ofMisuse _).bind fun names => ?_
    split
    · exact Fault.onlyFatal_ok none
    · exact (Fault.onlyFatal_ofMisuse _).bind fun values =>
        (record.schema.onlyFatal_storedCells hooks zone values).bind fun cells =>
          Fault.onlyFatal_ok _

/-! ## Sessions before, with and after a call -/

namespace Session
variable {σ α β : Type} {search : Bool}

def Checks (session : Session σ α) : Prop :=
  ∀ store, store.Called (runOn session store).2 [] ∧ Fault.OnlyFatal (runOn session store).1

def Sure (session : Session σ α) : Prop :=
  ∀ store, store.Called (runOn session store).2 [] ∧ ∃ a, (runOn session store).1 = .ok a

def EndsInTier (search : Bool) (session : Session σ α) : Prop :=
  ∀ store, ∃ made, store.Called (runOn session store).2 made ∧ Ending search (runOn session store).1 made

theorem Checks.bind {session : Session σ α} {next : α → Session σ β} (first : session.Checks)
    (others : ∀ a, (next a).EndsInTier search) : (session >>= next).EndsInTier search := by
  intro store
  obtain ⟨none, fatal⟩ := first store
  rw [runOn_bind]
  rcases ran : runOn session store with ⟨fault | a, after⟩
  · rw [ran] at none fatal
    exact ⟨[], none, .refused fault (fatal fault rfl)⟩
  · rw [ran] at none
    obtain ⟨made, called, ending⟩ := others a after
    exact ⟨made, none.trans called, ending⟩

/-- What follows a call has to end well for the values that the call may give. -/
theorem EndsInTier.bind_sure {session : Session σ α} {next : α → Session σ β}
    (first : session.EndsInTier search)
    (sure : ∀ store a, (runOn session store).1 = .ok a → (next a).Sure) :
    (session >>= next).EndsInTier search := by
  intro store
  obtain ⟨made, called, ending⟩ := first store
  rw [runOn_bind]
  rcases ran : runOn session store with ⟨result, after⟩
  rw [ran] at called ending
  cases ending with
  | refused fault fatal => exact ⟨[], called, .refused fault fatal⟩
  | failed call context causes writes => exact ⟨_, called, .failed call context causes writes⟩
  | done a made =>
      obtain ⟨none, b, value⟩ := sure store a (by rw [ran]) after
      refine ⟨made ++ [], called.trans none, ?_⟩
      dsimp only
      rw [value]
      exact .done b _

theorem checks_get : (get : Session σ (Store σ)).Checks := fun store =>
  ⟨.refl store, Fault.onlyFatal_ok store⟩

theorem checks_ofMisuse (result : Except Misuse α) : (ofMisuse result : Session σ α).Checks := by
  intro store
  rw [runOn_ofMisuse]
  exact ⟨.refl store, Fault.onlyFatal_ofMisuse result⟩

theorem checks_schema (entity : String) : (Store.schema entity : Session σ Schema).Checks := by
  intro store
  refine ⟨Store.called_schema entity store, ?_⟩
  rw [Store.runOn_schema]
  exact Fault.onlyFatal_ofMisuse _

theorem endsInTier_pure (a : α) : (pure a : Session σ α).EndsInTier search := fun store =>
  ⟨[], .refl store, .done a []⟩

theorem endsInTier_throw {fault : Fault} (fatal : fault.isFatal = true) :
    (throw fault : Session σ α).EndsInTier search := fun store =>
  ⟨[], .refl store, .refused fault fatal⟩

theorem endsInTier_perform (call : Call) :
    (Store.perform call : Session σ (Except String call.Reply)).EndsInTier search := fun store =>
  ⟨_, Store.called_ask store call, .done _ _⟩

theorem endsInTier_require (context : String) (call : Call) :
    (Store.require context call : Session σ call.Reply).EndsInTier false := by
  intro store
  have called := Store.called_ask store call
  rw [Store.runOn_require]
  rcases asked : store.ask call with ⟨message | reply, after⟩
  · rw [asked] at called
    exact ⟨_, called, .failed call context [message] rfl⟩
  · rw [asked] at called
    exact ⟨_, called, .done reply _⟩

theorem sure_pure (a : α) : (pure a : Session σ α).Sure := fun store => ⟨.refl store, a, rfl⟩

theorem sure_ofMisuse {result : Except Misuse α} {a : α} (fine : result = .ok a) :
    (ofMisuse result : Session σ α).Sure := by
  subst fine
  exact sure_pure a

theorem Sure.bind {session : Session σ α} {next : α → Session σ β} (first : session.Sure)
    (others : ∀ a, (next a).Sure) : (session >>= next).Sure := by
  intro store
  obtain ⟨none, a, value⟩ := first store
  rw [runOn_bind]
  rcases ran : runOn session store with ⟨result, after⟩
  rw [ran] at none value
  obtain rfl : result = .ok a := value
  obtain ⟨later, b, value⟩ := others a after
  exact ⟨none.trans later, b, value⟩

theorem EndsInTier.done {session : Session σ α} (ends : session.EndsInTier search) :
    session.done.EndsInTier search :=
  ends.bind_sure fun _ _ _ => sure_pure ()

end Session

/-! ## The operations -/

namespace Store
open Session
variable {σ : Type}

theorem Controls.ending {store : Store σ} {ended : Except Fault Unit × Store σ} {call : Call}
    {succeeded : Bool} (controls : store.Controls ended call succeeded) :
    Ending false ended.1 [(call, succeeded)] := by
  have answer := controls.answer
  generalize ended.1 = result at answer ⊢
  cases answer with
  | succeeded => exact .done () _
  | failed context message => exact .failed call context [message] rfl

theorem endsInTier_begin : (begin : Session σ Unit).EndsInTier false := by
  intro store
  cases flag : store.inTransaction with
  | true =>
      rw [begin_refused flag]
      exact ⟨[], .refl store, .refused _ rfl⟩
  | false =>
      obtain ⟨_, controls, -⟩ := begin_controls flag
      exact ⟨_, controls.called, controls.ending⟩

theorem endsInTier_commit : (commit : Session σ Unit).EndsInTier false := by
  intro store
  cases flag : store.inTransaction with
  | false =>
      rw [commit_refused flag]
      exact ⟨[], .refl store, .refused _ rfl⟩
  | true =>
      obtain ⟨_, controls, -⟩ := commit_controls flag
      exact ⟨_, controls.called, controls.ending⟩

theorem endsInTier_rollback : (rollback : Session σ Unit).EndsInTier false := by
  intro store
  cases flag : store.inTransaction with
  | false =>
      rw [rollback_refused flag]
      exact ⟨[], .refl store, .refused _ rfl⟩
  | true =>
      obtain ⟨_, controls, -⟩ := rollback_controls flag
      exact ⟨_, controls.called, controls.ending⟩

/-- The names were checked before the row was inserted, so the record can be filled. -/
theorem endsInTier_create (entity : String) (values : Values) :
    (create entity values : Session σ Record).EndsInTier false := by
  refine (checks_schema entity).bind fun schema => checks_get.bind fun store => ?_
  have fatal := schema.onlyFatal_newRow (store.hooks entity) store.dialect.zone values
  dsimp only
  cases made : schema.newRow (store.hooks entity) store.dialect.zone values with
  | error fault => exact endsInTier_throw (fatal fault made)
  | ok row =>
      obtain ⟨known, free⟩ := schema.names_of_newRow _ _ made
      have filled (id : Value) :
          (ofMisuse ((Record.blank entity schema id).setFields values) : Session σ Record).Sure := by
        obtain ⟨record, set, -⟩ : ∃ record,
            (Record.blank entity schema id).setFields values = .ok record ∧ _ :=
          Record.setFields_ok known free
        exact sure_ofMisuse set
      obtain ⟨insert, _ | id⟩ := row
      · exact (endsInTier_require _ _).bind_sure fun _ id _ => filled (.int id)
      · exact (endsInTier_require _ _).bind_sure fun _ _ _ => filled id

theorem endsInTier_save (record : Record) (names : Option (List String)) :
    (save record names : Session σ Nat).EndsInTier false := by
  refine checks_get.bind fun store => ?_
  have fatal := record.onlyFatal_update? (store.hooks record.entity) store.dialect.zone names
  cases made : record.update? (store.hooks record.entity) store.dialect.zone names with
  | error fault => exact endsInTier_throw (fatal fault made)
  | ok update =>
      cases update with
      | none => exact endsInTier_pure 0
      | some update => exact endsInTier_require _ _

theorem endsInTier_deleteRow (record : Record) :
    (deleteRow record : Session σ Nat).EndsInTier false := by
  refine checks_get.bind fun store => ?_
  cases record.delete with
  | error cause => exact endsInTier_throw rfl
  | ok delete => exact endsInTier_require _ _

theorem endsInTier_setAndSave (record : Record) (values : Values) :
    (ofOutcome (setAndSave record values) : Session σ Nat).EndsInTier false := by
  rw [ofOutcome_setAndSave]
  exact (checks_ofMisuse _).bind fun changed => endsInTier_save changed _

theorem endsInTier_flag (record : Record) (name : String) (active : Bool) :
    (ofOutcome (flag record name active) : Session σ Nat).EndsInTier false := by
  rw [ofOutcome_flag]
  exact (checks_ofMisuse _).bind fun changed => endsInTier_save changed _

theorem endsInTier_delete (record : Record) :
    (ofOutcome (delete record) : Session σ Nat).EndsInTier false := by
  rw [ofOutcome_delete]
  cases record.schema.deletion with
  | hard => exact endsInTier_deleteRow record
  | soft name =>
      cases record.isActive with
      | false => exact endsInTier_pure 0
      | true => exact endsInTier_flag record name false

theorem endsInTier_activate (record : Record) :
    (ofOutcome (activate record) : Session σ Nat).EndsInTier false := by
  rw [ofOutcome_activate]
  cases record.schema.deletion with
  | hard => exact endsInTier_throw rfl
  | soft name =>
      cases record.isActive with
      | false => exact endsInTier_flag record name true
      | true => exact endsInTier_pure 0

theorem sure_warn (warning : Warning) : (warn warning : Session σ Unit).Sure := fun store =>
  ⟨called_warning store warning, (), rfl⟩

theorem sure_keepReadable (table : String) (rows : List (Except Fault Record × Nat)) :
    (keepReadable table rows : Session σ (List Record)).Sure := by
  intro store
  obtain ⟨kept, called⟩ := keepReadable_spec table rows store
  exact ⟨called, _, kept⟩

theorem endsInTier_search (entity : String) (request : Search) :
    (search entity request : Session σ (List Record)).EndsInTier true := by
  refine (checks_schema entity).bind fun schema => checks_get.bind fun store =>
    (endsInTier_perform _).bind_sure fun _ reply _ => ?_
  cases reply with
  | error message => exact (sure_warn _).bind fun _ => sure_pure []
  | ok rows => exact sure_keepReadable _ _

theorem endsInTier_searchActive (entity : String) (request : Search) :
    (searchActive entity request : Session σ (List Record)).EndsInTier true := by
  refine (checks_schema entity).bind fun schema => ?_
  cases schema.deletion with
  | hard => exact endsInTier_throw rfl
  | soft flag =>
      dsimp only
      split
      · exact endsInTier_search entity request
      · exact endsInTier_search entity _

theorem endsInTier_searchOne (entity : String) (request : Search) :
    (searchOne entity request : Session σ (Option Record)).EndsInTier true := by
  refine (endsInTier_search entity request).bind_sure fun _ records _ => ?_
  split
  · exact sure_pure _
  · exact sure_pure none

theorem endsInTier_searchKnown (entity field : String) (request : Search) :
    (searchKnown entity field request : Session σ (List Record)).EndsInTier true :=
  (checks_schema entity).bind fun _ => (checks_ofMisuse _).bind fun _ =>
    endsInTier_search entity request

/-- Between the check of the field and the search, the schema stays what it is. -/
theorem knows_of_searchKnown {entity field : String} {request : Search} {store : Store σ}
    {records : List Record}
    (found : (runOn (searchKnown entity field request) store).1 = .ok records) :
    ∀ record ∈ records, record.schema.knows field = true := by
  rw [searchKnown, runOn_bind] at found
  rcases looked : runOn (schema entity) store with ⟨fault | schema, known⟩
  · rw [looked] at found
    cases found
  · have kept := registry_schema entity store (congrArg Prod.fst looked)
    rw [looked] at found kept
    dsimp only at found
    rw [runOn_bind, runOn_ofMisuse] at found
    cases checked : schema.checkFields [field] with
    | error cause =>
        rw [checked] at found
        cases found
    | ok _ =>
        rw [checked] at found
        intro record member
        have again := congrArg Prod.fst (schema_of_registry known kept)
        rw [schema_of_search again found record member]
        exact Schema.checkFields_eq_ok_iff.mp checked field (List.mem_singleton.mpr rfl)

theorem endsInTier_searchField (entity field : String) (request : Search) :
    (searchField entity field request : Session σ (List Value)).EndsInTier true := by
  refine (endsInTier_searchKnown entity field request).bind_sure fun store records found => ?_
  have each : ∀ record ∈ records, ∃ value, record.get field = .ok value ∧ True := by
    intro record member
    obtain ⟨value, got⟩ := Record.get_ok (knows_of_searchKnown found record member)
    exact ⟨value, got, trivial⟩
  obtain ⟨values, got, -⟩ := mapM_ok _ _ records each
  exact sure_ofMisuse got

theorem sure_keyed {entity field : String} {request : Search} {store : Store σ}
    {records : List Record}
    (found : (runOn (searchKnown entity field request) store).1 = .ok records) :
    (ofMisuse (keyed field records) : Session σ (List (String × Record))).Sure := by
  have each : ∀ record ∈ records, ∃ pair,
      ((record.get field).map fun value => (indexKey value, record)) = .ok pair ∧ True := by
    intro record member
    obtain ⟨value, got⟩ := Record.get_ok (knows_of_searchKnown found record member)
    exact ⟨(indexKey value, record), by rw [got]; rfl, trivial⟩
  obtain ⟨pairs, got, -⟩ := mapM_ok _ _ records each
  exact sure_ofMisuse got

theorem endsInTier_searchIndexed (entity field : String) (request : Search) :
    (searchIndexed entity field request : Session σ (SortedMap Record)).EndsInTier true :=
  (endsInTier_searchKnown entity field request).bind_sure fun _ _ found =>
    (sure_keyed found).bind fun _ => sure_pure _

theorem endsInTier_searchGrouped (entity field : String) (request : Search) :
    (searchGrouped entity field request : Session σ (SortedMap (List Record))).EndsInTier true :=
  (endsInTier_searchKnown entity field request).bind_sure fun _ _ found =>
    (sure_keyed found).bind fun _ => sure_pure _

end Store

namespace Operation
variable {σ : Type}

theorem endsInTier (operation : Operation) :
    (operation.session : Session σ Unit).EndsInTier operation.isSearch := by
  cases operation with
  | begin => exact Store.endsInTier_begin
  | commit => exact Store.endsInTier_commit
  | rollback => exact Store.endsInTier_rollback
  | create entity values => exact (Store.endsInTier_create entity values).done
  | save record names => exact (Store.endsInTier_save record names).done
  | setAndSave record values => exact (Store.endsInTier_setAndSave record values).done
  | delete record => exact (Store.endsInTier_delete record).done
  | activate record => exact (Store.endsInTier_activate record).done
  | search entity request => exact (Store.endsInTier_search entity request).done
  | searchActive entity request => exact (Store.endsInTier_searchActive entity request).done
  | searchOne entity request => exact (Store.endsInTier_searchOne entity request).done
  | searchFirst entity request => exact (Store.endsInTier_searchOne entity _).done
  | searchIndexed entity field request =>
      exact (Store.endsInTier_searchIndexed entity field request).done
  | searchGrouped entity field request =>
      exact (Store.endsInTier_searchGrouped entity field request).done
  | searchField entity field request =>
      exact (Store.endsInTier_searchField entity field request).done

/-- What a fault tells of the calls: a misuse or a conversion fault comes before any call, a store fault
from the only call, and never from a search.  What the backend has written is not reported as a
failure. -/
theorem fault_tells_calls (operation : Operation) (store : Store σ) :
    ∃ made, store.Called (runOn operation.session store).2 made ∧
      (∀ cause, (runOn operation.session store).1 = .error (.misuse cause) → made = []) ∧
      (∀ field cause, (runOn operation.session store).1 = .error (.conversion field cause) →
        made = []) ∧
      (∀ context causes, (runOn operation.session store).1 = .error (.store context causes) →
        operation.isSearch = false ∧ ∃ call, made = [(call, false)]) ∧
      ∀ call, call.isWrite = true → (call, true) ∈ made →
        (runOn operation.session store).1 = .ok () := by
  obtain ⟨made, called, ending⟩ := operation.endsInTier store
  refine ⟨made, called, ?_⟩
  generalize (runOn operation.session store).1 = result at ending
  refine ⟨?_, ?_, ?_, ?_⟩
  · rintro cause rfl
    exact ending.made_of_fatal rfl
  · rintro field cause rfl
    exact ending.made_of_fatal rfl
  · rintro context causes rfl
    cases ending with
    | refused _ fatal => cases fatal
    | failed call _ _ writes => exact ⟨writes, call, rfl⟩
  · intro call write member
    cases ending with
    | done _ _ => rfl
    | refused _ _ => cases member
    | failed _ _ _ _ =>
        obtain ⟨-, success⟩ := Prod.mk.inj (List.mem_singleton.mp member)
        cases success

end Operation

end RecordMapper
