import RecordMapper.Proofs.Record
import RecordMapper.Proofs.Sql.Placeholders
import RecordMapper.Proofs.Store.Conditions
import RecordMapper.Store.Write
/-! # Addressing the row of a record

A record keeps its identifier whatever is done with it (`Record.Later.resembles`), and everything that
is sent for it is addressed by that identifier (`Change.addresses`).  A record that was read from a row
is addressed by the very cell of that row, unless the cell holds bytes, which were read as text
(`identifier_addresses_iff`). -/
set_option autoImplicit false
namespace RecordMapper

open Session (runOn)
open RecordMapper.Filter (Operand)

/-! ## Statements with an identifier -/

/-- The statement has a condition, and `param` is the one parameter bound in it. -/
def Sql.Statement.Addresses (statement : Sql.Statement) (dialect : Sql.Dialect)
    (param : Param) : Prop :=
  ∃ front condition,
    statement = Sql.Fragment.statement dialect (front ++ .text " WHERE " :: condition) ∧
      Sql.Fragment.params condition = [param]

namespace Record
variable {record : Record} {param : Param}

def Binds (record : Record) (param : Param) : Prop :=
  ∀ zone, record.id.toParam zone = some param

theorem isNull_of_bound {zone : Calendar.Offset} (bound : record.id.toParam zone = some param) :
    record.id.isNull = false := by
  cases id : record.id with
  | null => simp [id, Value.toParam] at bound
  | _ => rfl

theorem entries_identifierCondition {zone : Calendar.Offset}
    (bound : record.id.toParam zone = some param) :
    (record.schema.identifierCondition record.id).entries =
      [(record.schema.idColumn, .one record.id)] := by
  have operand : Operand.ofValue record.id = .one record.id := by
    rw [Operand.ofValue, isNull_of_bound bound]
    rfl
  rw [Schema.identifierCondition, operand]
  rfl

theorem givenConditions_identifier {zone : Calendar.Offset}
    (bound : record.id.toParam zone = some param) :
    Sql.givenConditions (record.schema.identifierCondition record.id) zone = [param] := by
  rw [Sql.givenConditions, entries_identifierCondition bound]
  simp [Operand.values, bound]

theorem Binds.addresses (binds : record.Binds param) (dialect : Sql.Dialect)
    (front : List Sql.Fragment) (table : String) (compose : Filter.Connective) :
    (Sql.Fragment.statement dialect (front ++ (Sql.Where.ofConditions
      (record.schema.identifierCondition record.id) table compose dialect.zone).suffix)).Addresses
        dialect param := by
  refine ⟨front, _, rfl, ?_⟩
  rw [Sql.params_where]
  exact givenConditions_identifier (binds dialect.zone)

theorem conditions_of_update? {hooks : Hooks} {zone : Calendar.Offset}
    {names : Option (List String)} {update : Sql.Update}
    (given : record.update? hooks zone names = .ok (some update)) :
    update.conditions = record.schema.identifierCondition record.id := by
  rw [update?] at given
  split at given
  · cases given
  · obtain ⟨-, -, given⟩ := ok_of_bind_ok given
    obtain ⟨fields, -, given⟩ := ok_of_bind_ok given
    split at given
    · cases given
    · obtain ⟨values, -, given⟩ := ok_of_bind_ok given
      obtain ⟨cells, -, given⟩ := ok_of_bind_ok given
      obtain rfl := Option.some.inj (Except.ok.inj given)
      rfl

theorem Binds.addresses_update (binds : record.Binds param) {hooks : Hooks}
    {dialect : Sql.Dialect} {names : Option (List String)} {update : Sql.Update}
    (given : record.update? hooks dialect.zone names = .ok (some update)) :
    (update.statement dialect).Addresses dialect param := by
  rw [Sql.Update.statement, Sql.Update.fragments, conditions_of_update? given]
  exact binds.addresses dialect _ _ _

theorem setFields_resembles {changed : Record} {values : Values}
    (done : record.setFields values = .ok changed) : record.Resembles changed := by
  have each : ∀ (entries : List (String × Value)) (record : Record),
      entries.foldlM (fun record entry => record.set entry.1 entry.2) record = .ok changed →
        record.Resembles changed := by
    intro entries
    induction entries with
    | nil =>
        intro record done
        obtain rfl := Except.ok.inj done
        exact ⟨rfl, rfl, rfl⟩
    | cons entry rest ih =>
        intro record done
        obtain ⟨next, here, there⟩ := ok_of_bind_ok done
        exact (set_resembles here).trans (ih next there)
  rw [setFields] at done
  obtain ⟨-, -, done⟩ := ok_of_bind_ok done
  split at done
  · cases done
  · exact each values.entries record done

end Record

/-! ## Whatever is done with a record -/

namespace Store
variable {σ : Type} {record : Record} {param : Param}

def Addressed (store after : Store σ) (param : Param) : Prop :=
  ∃ made, store.Called after made ∧
    ∀ call ∈ made, ∃ statement : Sql.Statement,
      call.1 = .exec statement ∧ statement.Addresses store.dialect param

theorem Addressed.refl (store : Store σ) (param : Param) : store.Addressed store param :=
  ⟨[], .refl store, by simp⟩

theorem Called.addressed {store after : Store σ} {statement : Sql.Statement} {succeeded : Bool}
    (called : store.Called after [(.exec statement, succeeded)])
    (addresses : statement.Addresses store.dialect param) : store.Addressed after param := by
  refine ⟨_, called, fun call member => ⟨statement, ?_, addresses⟩⟩
  rw [List.mem_singleton.mp member]

theorem called_save {names : Option (List String)} {store : Store σ} {update : Sql.Update}
    (given : record.update? (store.hooks record.entity) store.dialect.zone names =
      .ok (some update)) :
    ∃ succeeded, store.Called (runOn (save record names) store).2
      [(.exec (update.statement store.dialect), succeeded)] := by
  rw [save, Session.runOn_bind, Session.runOn_get]
  dsimp only
  rw [given]
  exact called_require _ _ store

theorem addressed_save (binds : record.Binds param) (names : Option (List String))
    (store : Store σ) : store.Addressed (runOn (save record names) store).2 param := by
  rcases given : record.update? (store.hooks record.entity) store.dialect.zone names with
    fault | _ | update
  · rw [runOn_save, given]
    exact .refl store param
  · rw [runOn_save, given]
    exact .refl store param
  · obtain ⟨succeeded, called⟩ := called_save given
    exact called.addressed (binds.addresses_update given)

theorem called_removal {removal : Sql.Delete} (given : record.delete = .ok removal)
    (store : Store σ) :
    ∃ succeeded, store.Called (runOn (deleteRow record) store).2
      [(.exec (removal.statement store.dialect), succeeded)] := by
  rw [deleteRow, Session.runOn_bind, Session.runOn_get]
  dsimp only
  rw [given]
  exact called_require _ _ store

theorem called_deleteRow (binds : record.Binds param) (store : Store σ) :
    ∃ statement succeeded, store.Called (runOn (deleteRow record) store).2
        [(.exec statement, succeeded)] ∧ statement.Addresses store.dialect param := by
  obtain ⟨removal, given, conditions⟩ : ∃ removal : Sql.Delete, record.delete = .ok removal ∧
      removal.conditions = record.schema.identifierCondition record.id := by
    rw [Record.delete, Record.isNull_of_bound (binds .utc)]
    exact ⟨_, rfl, rfl⟩
  have addresses : (removal.statement store.dialect).Addresses store.dialect param := by
    rw [Sql.Delete.statement, Sql.Delete.fragments, conditions]
    exact binds.addresses store.dialect _ _ _
  obtain ⟨succeeded, called⟩ := called_removal given store
  exact ⟨_, succeeded, called, addresses⟩

end Store

/-- What can be done with a record: it is changed in memory, or written to a store. -/
inductive Change
  | set (name : String) (value : Value)
  | setFields (values : Values)
  | save (names : Option (List String))
  | setAndSave (values : Values)
  | delete
  | activate

namespace Change
variable {σ : Type} {record : Record} {param : Param}

def run (change : Change) (record : Record) : StateM (Store σ) Record :=
  match change with
  | .set name value => pure ((record.set name value).toOption.getD record)
  | .setFields values => pure ((record.setFields values).toOption.getD record)
  | .save names => Outcome.record <$> Store.outcome (Store.save record names) record
  | .setAndSave values => Outcome.record <$> Store.setAndSave record values
  | .delete => Outcome.record <$> Store.delete record
  | .activate => Outcome.record <$> Store.activate record

def Keeps (record : Record) (param : Param) (run : StateM (Store σ) Outcome) : Prop :=
  ∀ store, record.Resembles (run.run store).1.record ∧ store.Addressed (run.run store).2 param

theorem keeps_pure (outcome : Outcome) (resembles : record.Resembles outcome.record) :
    Keeps record param (pure outcome : StateM (Store σ) Outcome) :=
  fun store => ⟨resembles, .refl store param⟩

theorem keeps_save {changed : Record} (resembles : record.Resembles changed)
    (binds : record.Binds param) (names : Option (List String)) :
    Keeps record param (Store.outcome (Store.save changed names) changed : StateM (Store σ) _) := by
  have still : changed.Binds param := by
    intro zone
    rw [resembles.id]
    exact binds zone
  exact fun store => ⟨resembles, Store.addressed_save still names store⟩

theorem keeps_flag (binds : record.Binds param) (name : String) (active : Bool) :
    Keeps record param (Store.flag record name active : StateM (Store σ) _) := by
  rw [Store.flag]
  cases done : record.set name (.bool active) with
  | error cause => exact keeps_pure _ ⟨rfl, rfl, rfl⟩
  | ok changed => exact keeps_save (Record.set_resembles done) binds _

/-- One step: the record keeps its identifier, by which all that is sent is addressed. -/
theorem addresses (binds : record.Binds param) (change : Change) (store : Store σ) :
    record.Resembles ((change.run record).run store).1 ∧
      store.Addressed ((change.run record).run store).2 param := by
  have same : record.Resembles record := ⟨rfl, rfl, rfl⟩
  cases change with
  | set name value =>
      refine ⟨?_, .refl store param⟩
      show record.Resembles ((record.set name value).toOption.getD record)
      cases done : record.set name value with
      | error cause => exact same
      | ok changed => exact Record.set_resembles done
  | setFields values =>
      refine ⟨?_, .refl store param⟩
      show record.Resembles ((record.setFields values).toOption.getD record)
      cases done : record.setFields values with
      | error cause => exact same
      | ok changed => exact Record.setFields_resembles done
  | save names => exact keeps_save same binds names store
  | setAndSave values =>
      have kept : Keeps record param (Store.setAndSave record values : StateM (Store σ) _) := by
        rw [Store.setAndSave]
        cases done : record.setFields values with
        | error cause => exact keeps_pure _ same
        | ok changed => exact keeps_save (Record.setFields_resembles done) binds _
      exact kept store
  | delete =>
      have kept : Keeps record param (Store.delete record : StateM (Store σ) _) := by
        rw [Store.delete]
        cases record.schema.deletion with
        | hard =>
            intro store
            obtain ⟨statement, succeeded, called, addresses⟩ := Store.called_deleteRow binds store
            exact ⟨same, called.addressed addresses⟩
        | soft name =>
            dsimp only
            split
            · exact keeps_flag binds name false
            · exact keeps_pure _ same
      exact kept store
  | activate =>
      have kept : Keeps record param (Store.activate record : StateM (Store σ) _) := by
        rw [Store.activate]
        cases record.schema.deletion with
        | hard => exact keeps_pure _ same
        | soft name =>
            dsimp only
            split
            · exact keeps_pure _ same
            · exact keeps_flag binds name true
      exact kept store

end Change

inductive Record.Later (record : Record) : Record → Prop
  | same : Later record record
  | change {σ : Type} {later : Record} (before : Later record later) (change : Change)
      (store : Store σ) : Later record ((change.run later).run store).1

/-- All along a record keeps its identifier. -/
theorem Record.Later.resembles {record later : Record} {param : Param} (reached : record.Later later)
    (binds : record.Binds param) : record.Resembles later := by
  induction reached with
  | same => exact ⟨rfl, rfl, rfl⟩
  | change before change store ih =>
      have still : Record.Binds _ param := fun zone => (congrArg (·.toParam zone) ih.id).trans (binds zone)
      exact ih.trans (change.addresses still store).1

/-! ## Records of rows -/

/-- A cell as a record holds it for its identifier: bytes have become text. -/
def Cell.held : Cell → Cell
  | .binary bytes => .str (Text.decodeLossy bytes)
  | cell => cell

theorem Cell.held_eq_iff {cell : Cell} : cell.held = cell ↔ ∀ bytes, cell ≠ .binary bytes := by
  cases cell <;> simp [held]

theorem Cell.toParam_toValue {cell : Cell} (present : cell ≠ .null) (zone : Calendar.Offset) :
    cell.toValue.toParam zone = some cell.held.param := by
  cases cell with
  | null => exact absurd rfl present
  | int n => rfl
  | float x => rfl
  | str s => rfl
  | binary bytes => rfl

theorem Record.binds_ofRow {entity : String} {schema : Schema} {hooks : Hooks}
    {zone : Calendar.Offset} {row : Row} {record : Record} {cell : Cell}
    (read : Record.ofRow entity schema hooks zone row = .ok record)
    (found : row.get? schema.idColumn = some cell) (present : cell ≠ .null) :
    record.Binds cell.held.param := by
  obtain ⟨values, -, made⟩ := ok_of_bind_ok read
  obtain rfl := Except.ok.inj made
  intro zone
  rw [found]
  exact Cell.toParam_toValue present zone

/-- Whatever is done with a record that was read from a row, what is sent for it is addressed by one
and the same parameter: each save with something to write, and each deletion where rows are removed,
is one such statement.  The parameter is the identifier cell of the row itself, if and only if that
cell does not hold bytes. -/
theorem identifier_addresses_iff {entity : String} {schema : Schema} {hooks : Hooks}
    {zone : Calendar.Offset} {row : Row} {record : Record} {cell : Cell}
    (read : Record.ofRow entity schema hooks zone row = .ok record)
    (found : row.get? schema.idColumn = some cell) (present : cell ≠ .null) :
    ∃ bound : Cell,
      (∀ later, record.Later later → ∀ {σ : Type} (store : Store σ),
        (∀ change : Change, store.Addressed ((change.run later).run store).2 bound.param) ∧
        (∀ names update, later.update? (store.hooks later.entity) store.dialect.zone names =
            .ok (some update) →
          ∃ succeeded, store.Called (((Change.save names).run later).run store).2
            [(.exec (update.statement store.dialect), succeeded)]) ∧
        (schema.deletion = .hard →
          ∃ statement succeeded, store.Called ((Change.delete.run later).run store).2
            [(.exec statement, succeeded)])) ∧
      (bound = cell ↔ ∀ bytes, cell ≠ .binary bytes) := by
  have binds := Record.binds_ofRow read found present
  refine ⟨cell.held, fun later reached σ store => ?_, Cell.held_eq_iff⟩
  have resembles := reached.resembles binds
  have still : later.Binds cell.held.param := by
    intro zone
    rw [resembles.id]
    exact binds zone
  refine ⟨fun change => (change.addresses still store).2, fun names update given => ?_, fun hard => ?_⟩
  · exact Store.called_save given
  · obtain ⟨statement, succeeded, called, -⟩ := Store.called_deleteRow still store
    refine ⟨statement, succeeded, ?_⟩
    have rowDeleted : (Store.delete later : StateM (Store σ) Outcome) =
        Store.outcome (Store.deleteRow later) later := by
      rw [Store.delete, resembles.schema, Record.schema_ofRow read, hard]
    rw [Change.run, rowDeleted]
    exact called

/-- Two rows with bytes for identifiers: to delete the record of either is to ask for a third one, whose
identifier is a text. -/
theorem deletion_misses_bytes :
    let row (byte : UInt8) : Row := [("person_id", .binary [byte]), ("name", .str "Ann")]
    let read (byte : UInt8) := Record.ofRow "Person" Store.peopleSchema {} .utc (row byte)
    let deleted : Sql.Statement :=
      ⟨"DELETE FROM `people` WHERE (`people`.`person_id` = ?)", [(Cell.str "\uFFFD").param]⟩
    (∃ record, read 0xFE = .ok record ∧
      ((Change.delete.run record).run Store.peopleStore).2.journal = [.call (.exec deleted) true]) ∧
    (∃ record, read 0xFF = .ok record ∧
      ((Change.delete.run record).run Store.peopleStore).2.journal = [.call (.exec deleted) true]) ∧
    Cell.str "\uFFFD" ≠ .binary [0xFE] ∧ Cell.str "\uFFFD" ≠ .binary [0xFF] := by
  refine ⟨⟨_, rfl, ?_⟩, ⟨_, rfl, ?_⟩, by simp, by simp⟩
  · decide +kernel
  · decide +kernel

theorem identifier_addresses_text :
    let row : Row := [("person_id", .str "usr_01"), ("name", .str "Ann")]
    let changed (record : Record) : Record :=
      ((Change.set "name" (.str "Bob")).run record |>.run Store.peopleStore).1
    ∃ record, Record.ofRow "Person" Store.peopleSchema {} .utc row = .ok record ∧
      row.get? Store.peopleSchema.idColumn = some (.str "usr_01") ∧ Cell.str "usr_01" ≠ .null ∧
      record.Later (changed record) ∧ (changed record).value? "name" = some (.str "Bob") ∧
      ∀ store : Store Unit,
        store.Addressed ((Change.delete.run (changed record)).run store).2
          (Cell.str "usr_01").param := by
  intro row changed
  obtain ⟨record, read⟩ : ∃ record,
      Record.ofRow "Person" Store.peopleSchema {} .utc row = .ok record := ⟨_, rfl⟩
  have found : row.get? Store.peopleSchema.idColumn = some (.str "usr_01") := by decide
  have present : Cell.str "usr_01" ≠ .null := by simp
  obtain ⟨bound, addressed, same⟩ := identifier_addresses_iff read found present
  obtain rfl := same.mpr (by simp)
  have later : record.Later (changed record) := .change .same _ _
  refine ⟨record, read, found, present, later, ?_, fun store => (addressed _ later store).1 .delete⟩
  obtain rfl := Except.ok.inj read
  rfl

end RecordMapper
