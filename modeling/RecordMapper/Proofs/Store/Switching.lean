import Mathlib.Data.List.Chain
import RecordMapper.Proofs.Record.Holding
import RecordMapper.Proofs.Store.CreatedFlag
import RecordMapper.Proofs.Store.SoftDelete
/-! # Deleting and activating in turn

A record that is deleted and activated over and over, in a store that obeys what it is asked to, is
after each turn as that turn wants it.  A turn that changes this writes the flag and nothing else, and
any other asks nothing (`Store.switch_cases`), so that the updates of a run write alternating values
(`Store.switches_alternate`). -/
set_option autoImplicit false
namespace RecordMapper

open Session (runOn)
open Sql (Fragment)

namespace Record
variable {record changed last : Record} {flag : String}

/-- Nothing but the value of one field is different. -/
structure Beside (record : Record) (flag : String) (changed : Record) : Prop where
  resembles : record.Resembles changed
  filled : changed.values.length = record.values.length
  others : ∀ name, name ≠ flag → changed.value? name = record.value? name

theorem Beside.refl (record : Record) (flag : String) : record.Beside flag record :=
  ⟨⟨rfl, rfl, rfl⟩, rfl, fun _ _ => rfl⟩

theorem Beside.trans (first : record.Beside flag changed) (second : changed.Beside flag last) :
    record.Beside flag last where
  resembles := first.resembles.trans second.resembles
  filled := second.filled.trans first.filled
  others := fun name other => (second.others name other).trans (first.others name other)

theorem beside_put {index : Nat} (position : record.schema.position? flag = some index)
    (value : Value) : record.Beside flag (record.put index value) where
  resembles := ⟨rfl, rfl, rfl⟩
  filled := List.length_set ..
  others := fun _ other => value?_put_of_ne position other value

theorem Sound.of_beside (sound : record.Sound) (beside : record.Beside flag changed) :
    changed.Sound := by
  obtain ⟨declared, filled⟩ := sound
  rw [← beside.resembles.schema] at declared filled
  exact ⟨declared, beside.filled.trans filled⟩

def flagStatement (record : Record) (flag : String) (active : Bool) (dialect : Sql.Dialect) :
    Sql.Statement :=
  (record.updateOf [(record.schema.column flag, .int (if active then 1 else 0))]).statement dialect

theorem Resembles.flagStatement (resembles : record.Resembles changed) :
    changed.flagStatement = record.flagStatement := by
  funext flag active dialect
  rw [Record.flagStatement, Record.flagStatement, updateOf, updateOf, resembles.schema, resembles.id]

theorem flagStatement_eq (present : record.id.isNull = false) (flag : String)
    (dialect : Sql.Dialect) :
    ∃ condition, ∀ active, record.flagStatement flag active dialect = Fragment.statement dialect
      ([.text "UPDATE ", .name record.schema.table, .text " SET ",
        .name (record.schema.column flag), .text " = ",
        .bind (Cell.int (if active then 1 else 0)).param, .text " WHERE "] ++ condition) := by
  have operand : Filter.Operand.ofValue record.id = .one record.id := by
    rw [Filter.Operand.ofValue, present]
    rfl
  refine ⟨(Sql.Where.ofConditions (record.schema.identifierCondition record.id) record.schema.table
    .and dialect.zone).fragments, fun active => ?_⟩
  rw [flagStatement, Sql.Update.statement, Sql.Update.fragments, updateOf,
    Schema.identifierCondition, operand]
  rfl

end Record

namespace Store
variable {σ : Type} {record : Record} {flag : String} {store : Store σ}

/-- The entity has no hooks, and the backend obeys whatever it is asked to. -/
structure Obeys (store : Store σ) (entity : String) : Prop where
  plain : store.hooks entity = {}
  succeeds : ∀ statement state, ∃ (count : Nat) (next : σ),
    store.driver (.exec statement) state = (.ok count, next)

theorem run_outcome (session : Session σ Nat) (record : Record) (store : Store σ) :
    (outcome session record).run store =
      (⟨(runOn session store).1, record⟩, (runOn session store).2) := rfl

theorem runOn_save_ok {names : Option (List String)} {update : Sql.Update} {count : Nat}
    {after : Store σ}
    (given : record.update? (store.hooks record.entity) store.dialect.zone names =
      .ok (some update))
    (asked : store.ask (.exec (update.statement store.dialect)) = (.ok count, after)) :
    runOn (save record names) store = (.ok count, after) := by
  rw [runOn_save, given]
  dsimp only
  rw [asked]

/-- A turn leaves a record alone that is already as the turn wants it; or else it sets the flag, and
writes it by one call. -/
theorem switch_cases (sound : record.Sound) (soft : record.schema.deletion = .soft flag)
    (present : record.id.isNull = false) (obeys : store.Obeys record.entity) (active : Bool) :
    (record.isActive = active ∧ (switch record active).run store = (⟨.ok 0, record⟩, store)) ∨
      (record.isActive ≠ active ∧ ∃ count changed after,
        (switch record active).run store = (⟨.ok count, changed⟩, after) ∧
        changed.isActive = active ∧ record.Beside flag changed ∧
        after.Obeys record.entity ∧ after.dialect = store.dialect ∧
        store.Called after [(.exec (record.flagStatement flag active store.dialect), true)]) := by
  obtain ⟨declaration, valid⟩ := sound.declared
  obtain ⟨index, free, position, inside⟩ := Record.position?_flag valid soft sound.filled
  rw [switch_soft soft]
  by_cases already : record.isActive = active
  · rw [if_pos already]
    exact .inl ⟨already, rfl⟩
  · rw [if_neg already, flag_eq free position]
    refine .inr ⟨already, ?_⟩
    have given := Record.update?_put_flag valid soft position inside present store.dialect.zone active
    rw [← obeys.plain] at given
    let call : Call := .exec (record.flagStatement flag active store.dialect)
    obtain ⟨count, next, answered⟩ := obeys.succeeds _ store.backend
    have replied : (store.ask call).1 = .ok count := congrArg Prod.fst (ask_of_reply store answered)
    have called := called_ask store call
    rw [replied] at called
    have saved := runOn_save_ok given (Prod.ext replied rfl)
    refine ⟨count, record.put index (.bool active), (store.ask call).2, ?_,
      Record.isActive_put soft position inside active, Record.beside_put position _,
      ⟨obeys.plain, obeys.succeeds⟩, rfl, called⟩
    rw [run_outcome, saved]
    rfl

/-! ## Runs -/

/-- One turn of a run: what was asked for, and the record and the store before it and behind it. -/
structure Turn (σ : Type) where
  active : Bool
  before : Record
  store : Store σ
  outcome : Outcome
  after : Store σ

def switchAll : List Bool → Record → Store σ → List (Turn σ) × Record × Store σ
  | [], record, store => ([], record, store)
  | active :: rest, record, store =>
    let (outcome, after) := (switch record active).run store
    let (turns, last) := switchAll rest outcome.record after
    (⟨active, record, store, outcome, after⟩ :: turns, last)

theorem active_switchAll (steps : List Bool) (record : Record) (store : Store σ) :
    (switchAll steps record store).1.map Turn.active = steps := by
  induction steps generalizing record store with
  | nil => rfl
  | cons active rest ih => exact congrArg (active :: ·) (ih _ _)

/-- The turns of a run that change whether the record is active. -/
def flips : Bool → List Bool → List Bool
  | _, [] => []
  | now, active :: rest => if now = active then flips now rest else active :: flips active rest

/-- What is changed is changed back before it can be changed again. -/
theorem isChain_flips (now : Bool) (steps : List Bool) :
    (now :: flips now steps).IsChain (· ≠ ·) := by
  induction steps generalizing now with
  | nil => exact .singleton now
  | cons active rest ih =>
      rw [flips]
      split
      · exact ih now
      · next differs => exact .cons_cons differs (ih active)

structure Turn.Switches (turn : Turn σ) (record : Record) (flag : String)
    (dialect : Sql.Dialect) : Prop where
  active : turn.outcome.record.isActive = turn.active
  beside : record.Beside flag turn.outcome.record
  silent : turn.before.isActive = turn.active →
    turn.outcome = ⟨.ok 0, turn.before⟩ ∧ turn.after = turn.store
  written : turn.before.isActive ≠ turn.active →
    (∃ count, turn.outcome.result = .ok count) ∧ turn.store.Called turn.after
      [(.exec (record.flagStatement flag turn.active dialect), true)]

theorem switchAll_switches {start : Record} {dialect : Sql.Dialect} (sound : start.Sound)
    (soft : start.schema.deletion = .soft flag) (present : start.id.isNull = false)
    (steps : List Bool) (beside : start.Beside flag record)
    (obeys : store.Obeys start.entity) (same : store.dialect = dialect) :
    (∀ turn ∈ (switchAll steps record store).1, turn.Switches start flag dialect) ∧
      start.Beside flag (switchAll steps record store).2.1 ∧
      store.Called (switchAll steps record store).2.2
        ((flips record.isActive steps).map fun active =>
          (.exec (start.flagStatement flag active dialect), true)) := by
  induction steps generalizing record store with
  | nil => exact ⟨fun turn member => absurd member List.not_mem_nil, beside, .refl store⟩
  | cons active rest ih =>
      have resembles := beside.resembles
      rw [← resembles.entity] at obeys
      rcases switch_cases (sound.of_beside beside) (resembles.schema ▸ soft) (resembles.id ▸ present)
          obeys active with
        ⟨already, ran⟩ | ⟨other, count, changed, after, ran, switched, step, still, kept, called⟩
      · rw [resembles.entity] at obeys
        obtain ⟨turns, last, all⟩ := ih beside obeys same
        rw [switchAll, ran, flips, if_pos already]
        refine ⟨?_, last, all⟩
        intro turn member
        rcases List.mem_cons.mp member with rfl | later
        · exact ⟨already, beside, fun _ => ⟨rfl, rfl⟩, fun differs => absurd already differs⟩
        · exact turns turn later
      · rw [resembles.entity] at still
        rw [resembles.flagStatement, same] at called
        obtain ⟨turns, last, all⟩ := ih (beside.trans step) still (kept.trans same)
        rw [switchAll, ran, flips, if_neg other]
        rw [switched] at all
        refine ⟨?_, last, called.trans all⟩
        intro turn member
        rcases List.mem_cons.mp member with rfl | later
        · exact ⟨switched, beside.trans step, fun equal => absurd equal other,
            fun _ => ⟨⟨count, rfl⟩, called⟩⟩
        · exact turns turn later

/-- Behind each turn the record is as the turn wants it, and nothing but its flag has changed.  A turn
that changes whether the record is active writes the column of its flag, as one or zero, and nothing
else; any other makes no call and returns zero.  So the updates of the run, from whatever the flag is
at the start, write alternating values. -/
theorem switches_alternate (sound : record.Sound) (soft : record.schema.deletion = .soft flag)
    (present : record.id.isNull = false) (obeys : store.Obeys record.entity)
    (steps : List Bool) :
    (switchAll steps record store).1.map Turn.active = steps ∧
      (∀ turn ∈ (switchAll steps record store).1, turn.Switches record flag store.dialect) ∧
      record.Beside flag (switchAll steps record store).2.1 ∧
      store.Called (switchAll steps record store).2.2
        ((flips record.isActive steps).map fun active =>
          (.exec (record.flagStatement flag active store.dialect), true)) ∧
      (flips record.isActive steps).IsChain (· ≠ ·) ∧
      ∃ condition, ∀ active, record.flagStatement flag active store.dialect =
        Fragment.statement store.dialect
          ([.text "UPDATE ", .name record.schema.table, .text " SET ",
            .name (record.schema.column flag), .text " = ",
            .bind (Cell.int (if active then 1 else 0)).param, .text " WHERE "] ++ condition) := by
  obtain ⟨turns, last, called⟩ :=
    switchAll_switches sound soft present steps (.refl record flag) obeys rfl
  exact ⟨active_switchAll steps record store, turns, last, called,
    (isChain_flips record.isActive steps).tail, Record.flagStatement_eq present flag store.dialect⟩

/-- A task whose flag is `NULL` is not active: to delete it asks nothing, and of two activations or
deletions in a row the second one asks nothing. -/
theorem switches_alternate_task :
    let unset : Record := ⟨"Task", tasksSchema, .int 1, [.str "plan", .null]⟩
    let steps := [false, true, true, false, false, true]
    let sent (n : Int64) : Call :=
      .exec ⟨"UPDATE `tasks` SET `done` = ? WHERE (`tasks`.`id` = ?)",
        [⟨.integer, .int n⟩, ⟨.integer, .int 1⟩]⟩
    taskStore.Called (switchAll steps unset taskStore).2.2
        [(sent 1, true), (sent 0, true), (sent 1, true)] ∧
      ∀ turn ∈ (switchAll steps unset taskStore).1,
        turn.outcome.record.isActive = turn.active ∧
          turn.outcome.record.value? "title" = some (.str "plan") := by
  intro unset steps sent
  have sound : unset.Sound := ⟨⟨tasks, rfl⟩, rfl⟩
  have obeys : taskStore.Obeys "Task" := ⟨rfl, fun statement state => ⟨0, state, rfl⟩⟩
  obtain ⟨-, turns, -, called, -⟩ := switches_alternate sound rfl rfl obeys steps
  have one : unset.flagStatement "done" true .standard =
      ⟨"UPDATE `tasks` SET `done` = ? WHERE (`tasks`.`id` = ?)",
        [⟨.integer, .int 1⟩, ⟨.integer, .int 1⟩]⟩ := by decide
  have zero : unset.flagStatement "done" false .standard =
      ⟨"UPDATE `tasks` SET `done` = ? WHERE (`tasks`.`id` = ?)",
        [⟨.integer, .int 0⟩, ⟨.integer, .int 1⟩]⟩ := by decide
  refine ⟨?_, fun turn member => ⟨(turns turn member).active, ?_⟩⟩
  · have flipped : flips unset.isActive steps = [true, false, true] := rfl
    rw [flipped] at called
    simp only [List.map_cons, List.map_nil] at called
    rw [show taskStore.dialect = .standard from rfl, one, zero] at called
    exact called
  · exact (turns turn member).beside.others "title" (by decide)

end Store

end RecordMapper
