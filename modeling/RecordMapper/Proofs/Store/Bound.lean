import RecordMapper.Proofs.Sql.Slots
import RecordMapper.Proofs.Store.Control
import RecordMapper.Proofs.Store.RecordWork
import RecordMapper.Proofs.Store.Sent
/-! # What calls bind

Every statement that an operation sends comes from a builder, and a builder binds no `NULL`: the slot
of a cell that is `NULL` is the word `null` (`Store.binds_no_null`). -/
set_option autoImplicit false
namespace RecordMapper

open Session (Confined Sends runOn sends_nothing sends_one)

namespace Call

def params : Call → List Param
  | .query statement | .exec statement | .insert statement => statement.params
  | .begin | .commit | .rollback => []

/-- The statement of the call, if it sends one, comes from a builder, and nothing is bound but with the
tag of its value. -/
structure Sound (call : Call) : Prop where
  built : call.isStatement = true → call.Built
  natural : ∀ param ∈ call.params, param.isNatural = true

variable {call : Call}

theorem Built.sound (built : call.Built) : call.Sound where
  built := fun _ => built
  natural := by
    cases built with
    | query select dialect => exact (Sql.Command.select select).isNatural_params dialect
    | exec command dialect => exact command.isNatural_params dialect
    | insert row dialect => exact (Sql.Command.insert row).isNatural_params dialect

theorem sound_of_control (control : call.isStatement = false) : call.Sound where
  built := fun statement => absurd (control.symm.trans statement) Bool.false_ne_true
  natural := by
    cases call with
    | query statement => cases control
    | exec statement => cases control
    | insert statement => cases control
    | begin => simp [params]
    | commit => simp [params]
    | rollback => simp [params]

end Call

/-! ## Sessions -/

namespace Store
variable {σ α : Type} {P : Call → Prop}

def Reaches (P : Call → Prop) (store after : Store σ) : Prop :=
  ∃ made, store.Called after made ∧ ∀ call ∈ made, P call.1

theorem Reaches.refl (store : Store σ) : Reaches P store store := ⟨[], .refl store, by simp⟩

theorem Reaches.trans {store middle after : Store σ} (here : Reaches P store middle)
    (there : Reaches P middle after) : Reaches P store after := by
  obtain ⟨made, called, each⟩ := here
  obtain ⟨later, called', each'⟩ := there
  refine ⟨made ++ later, called.trans called', fun call member => ?_⟩
  rcases List.mem_append.mp member with member | member
  · exact each call member
  · exact each' call member

end Store

namespace Session
variable {σ α : Type} {P : Call → Prop}

theorem Confined.sends {session : Session σ α} (confined : session.Confined P) (store : Store σ) :
    session.Sends store P := by
  induction confined generalizing store with
  | value a => exact sends_nothing rfl P
  | fault fault => exact sends_nothing rfl P
  | look => exact sends_nothing rfl P
  | lookUp entity => exact ⟨[], Store.called_schema entity store, by simp⟩
  | send call has => exact sends_one ⟨_, Store.called_ask store call⟩ has
  | warn warning => exact ⟨[], Store.called_warning store warning, by simp⟩
  | andThen _ _ ih others =>
      have here : Store.Reaches P store _ := ih store
      show Store.Reaches P store _
      rw [runOn_bind]
      generalize runOn _ store = ended at here ⊢
      obtain ⟨fault | a, after⟩ := ended
      · exact here
      · exact here.trans (others a after)
  | recover _ _ ih others =>
      have here : Store.Reaches P store _ := ih store
      show Store.Reaches P store _
      rw [runOn_tryCatch]
      generalize runOn _ store = ended at here ⊢
      obtain ⟨fault | a, after⟩ := ended
      · exact here.trans (others fault after)
      · exact here

end Session

namespace Store
variable {σ α : Type} {P : Call → Prop}

theorem sends_begin (has : P .begin) (store : Store σ) : begin.Sends store P := by
  cases isOpen : store.inTransaction with
  | true => exact sends_nothing (begin_refused isOpen) P
  | false =>
      obtain ⟨succeeded, controls, -⟩ := begin_controls isOpen
      exact sends_one ⟨succeeded, controls.called⟩ has

theorem sends_commit (has : P .commit) (store : Store σ) : commit.Sends store P := by
  cases isOpen : store.inTransaction with
  | false => exact sends_nothing (commit_refused isOpen) P
  | true =>
      obtain ⟨succeeded, controls, -⟩ := commit_controls isOpen
      exact sends_one ⟨succeeded, controls.called⟩ has

theorem sends_rollback (has : P .rollback) (store : Store σ) : rollback.Sends store P := by
  cases isOpen : store.inTransaction with
  | false => exact sends_nothing (rollback_refused isOpen) P
  | true =>
      obtain ⟨succeeded, controls, -⟩ := rollback_controls isOpen
      exact sends_one ⟨succeeded, controls.called⟩ has

theorem sends_rollbackQuietly (has : P .rollback) (store : Store σ) :
    rollbackQuietly.Sends store P := by
  have sends : Reaches P store (runOn rollback store).2 := sends_rollback has store
  show Reaches P store (runOn rollbackQuietly store).2
  rw [runOn_rollbackQuietly]
  generalize runOn rollback store = ended at sends ⊢
  obtain ⟨fault | _, after⟩ := ended
  · exact sends.trans ⟨[], called_warning after _, by simp⟩
  · exact sends

/-- A transaction adds its own calls to those of its body. -/
theorem sends_transaction {body : Session σ α} (sends : ∀ store, body.Sends store P)
    (first : P .begin) (last : P .commit) (undo : P .rollback) (store : Store σ) :
    (transaction body).Sends store P := by
  have begun : Reaches P store (runOn begin store).2 := sends_begin first store
  show Reaches P store (runOn (transaction body) store).2
  rw [runOn_transaction]
  generalize runOn begin store = started at begun ⊢
  obtain ⟨fault | _, opened⟩ := started
  · exact begun
  have worked : Reaches P opened (runOn body opened).2 := sends opened
  dsimp only
  generalize runOn body opened = ended at worked ⊢
  obtain ⟨fault | a, done⟩ := ended
  · exact (begun.trans worked).trans (sends_rollbackQuietly undo done)
  have committed : Reaches P done (runOn commit done).2 := sends_commit last done
  dsimp only
  generalize runOn commit done = closed at committed ⊢
  obtain ⟨fault | _, after⟩ := closed
  · exact ((begun.trans worked).trans committed).trans (sends_rollbackQuietly undo after)
  · exact (begun.trans worked).trans committed

end Store

theorem Operation.sends_sound {σ : Type} (operation : Operation) (store : Store σ) :
    operation.session.Sends store Call.Sound := by
  cases control : operation.isControl with
  | false =>
      obtain ⟨made, called, built⟩ := (operation.confined control).sends store
      exact ⟨made, called, fun call member => (built call member).sound⟩
  | true =>
      cases operation with
      | begin => exact Store.sends_begin (Call.sound_of_control rfl) store
      | commit => exact Store.sends_commit (Call.sound_of_control rfl) store
      | rollback => exact Store.sends_rollback (Call.sound_of_control rfl) store
      | _ => cases control

/-- Whatever the dialect and the values, no command binds `NULL`, nor any value but with its own tag;
`INSERT` and `UPDATE` have a slot for each cell, which is the word `null` if and only if the cell is
`NULL`.  Whatever the entities, their hooks and the backend, every call of an operation controls a
transaction or sends the statement of a command; so does every call of a transaction if its body makes
no other calls. -/
theorem Store.binds_no_null {σ : Type} (store : Store σ) :
    (∀ (command : Sql.Command) (dialect : Sql.Dialect),
        ∀ param ∈ (command.statement dialect).params, param.isNatural = true) ∧
      (∀ (insert : Sql.Insert) (dialect : Sql.Dialect),
        (insert.statement dialect).sql = insert.text dialect) ∧
      (∀ (update : Sql.Update) (dialect : Sql.Dialect),
        (update.statement dialect).sql = update.text dialect) ∧
      (∀ (dialect : Sql.Dialect) (n : Nat) (cells : List Cell),
        (dialect.slots n cells).length = cells.length ∧
          ∀ i : Nat, (dialect.slots n cells)[i]? = some "null" ↔ cells[i]? = some .null) ∧
      (∀ operation : Operation, operation.session.Sends store Call.Sound) ∧
      ∀ {α : Type} (body : Session σ α), (∀ inner, body.Sends inner Call.Sound) →
        (transaction body).Sends store Call.Sound := by
  have control : ∀ call : Call, call.isStatement = false → call.Sound :=
    fun call => Call.sound_of_control
  refine ⟨fun command => command.isNatural_params, fun insert => insert.sql_statement,
    fun update => update.sql_statement, fun dialect n cells => ⟨dialect.length_slots n cells,
      dialect.slots_null_iff n cells⟩, fun operation => operation.sends_sound store,
    fun body sends => ?_⟩
  exact sends_transaction sends (control .begin rfl) (control .commit rfl) (control .rollback rfl) store

/-- A hook turns a title into `NULL`, another supplies the identifier, and the backend fails. -/
theorem Store.binds_no_null_hooked :
    let note : Entity :=
      { declaration := { table := "notes", fields := [("title", none), ("body", none)] }
        hooks :=
          { onStore := fun name value => if name = "title" then .null else value
            generateId := fun _ => some (.int 7) } }
    let store : Store Unit :=
      Store.new (fun _ state => (.error "down", state)) () .standard (Catalog.ofEntities fun _ => note)
    let create : Operation :=
      .create "Note" ⟨[("title", .str "plan"), ("body", .str "later")], by decide⟩
    let row : Sql.Insert := ⟨"notes", [("title", .null), ("body", .str "later"), ("id", .int 7)]⟩
    (∀ inner : Store Unit, create.session.Sends inner Call.Sound) ∧
      (transaction create.session).Sends store Call.Sound ∧
      (runOn create.session store).2.journal = [.call (.exec (row.statement .standard)) false] ∧
      (row.statement .standard).sql =
        "INSERT INTO `notes` (`title`,`body`,`id`) VALUES (null,?,?)" := by
  intro note store create row
  have sends : ∀ inner : Store Unit, create.session.Sends inner Call.Sound :=
    fun inner => (binds_no_null inner).2.2.2.2.1 create
  obtain ⟨-, text, -, -, -, transactions⟩ := binds_no_null store
  refine ⟨sends, transactions create.session sends, ?_, (text row .standard).trans ?_⟩
  · decide +kernel
  · decide +kernel

end RecordMapper
