import RecordMapper.Proofs.Record.Assignment
import RecordMapper.Proofs.Store.Created
import RecordMapper.Proofs.Store.CreatedFlag
import RecordMapper.Proofs.Store.Found
import RecordMapper.Proofs.Store.Identifier
import RecordMapper.Proofs.Store.Reached
/-! # Records over their lives

Records are created or found, copied, and changed in memory and through stores.  A `Ledger` notes beside
a record the identifier that it came with and, for each name, the value that was last set.  One change
sets in the record what it notes in the ledger (`Ledger.Kept.after`), so that all along the record
reads as its ledger (`Shelf.reads_as_ledgers`). -/
set_option autoImplicit false
namespace RecordMapper

open Session (runOn)

/-! ## What is set by a change -/

def Schema.switches (schema : Schema) (last : String → Value) (active : Bool) :
    List (String × Value) :=
  match schema.deletion with
  | .hard => []
  | .soft flag => if (last flag == .bool true) = active then [] else [(flag, .bool active)]

/-- The values that a change sets in a record which holds `last`: those that are given, if all their
names are those of fields. -/
def Change.sets (schema : Schema) (last : String → Value) : Change → List (String × Value)
  | .set name value => if schema.Declares [name] then [(name, value)] else []
  | .setFields values | .setAndSave values =>
    if schema.Declares values.keys then values.entries else []
  | .save _ => []
  | .delete => schema.switches last false
  | .activate => schema.switches last true

namespace Record
variable {record changed : Record} {last : String → Value}

theorem declares_of_set {name : String} {value : Value} (done : record.set name value = .ok changed) :
    record.schema.Declares [name] := by
  rw [set] at done
  split at done
  · cases done
  · split at done
    · next index position =>
        obtain ⟨field, found, named⟩ :=
          Option.map_eq_some_iff.mp (Schema.name_of_position? position)
        intro other member
        rw [List.mem_singleton.mp member]
        exact ⟨field, List.mem_of_getElem? found, named⟩
    · cases done

def Overlaid (record : Record) (last : String → Value) (entries : List (String × Value))
    (changed : Record) : Prop :=
  record.Resembles changed ∧ changed.Holds (overlay entries last)

theorem overlaid_nil (holds : record.Holds last) : record.Overlaid last [] record :=
  ⟨⟨rfl, rfl, rfl⟩, holds⟩

theorem overlaid_set (holds : record.Holds last) (wellFormed : record.schema.WellFormed)
    (name : String) (value : Value) :
    record.Overlaid last (if record.schema.Declares [name] then [(name, value)] else [])
      ((record.set name value).toOption.getD record) := by
  split
  · next declares =>
      obtain ⟨changed, done, resembles, kept⟩ := holds.set wellFormed value declares
      rw [done]
      exact ⟨resembles, kept⟩
  · next other =>
      cases done : record.set name value with
      | error cause => exact overlaid_nil holds
      | ok changed => exact absurd (declares_of_set done) other

theorem overlaid_setFields (holds : record.Holds last) (wellFormed : record.schema.WellFormed)
    (values : Values) :
    record.Overlaid last (if record.schema.Declares values.keys then values.entries else [])
      ((record.setFields values).toOption.getD record) := by
  split
  · next declares =>
      obtain ⟨changed, done, resembles, kept⟩ := holds.setFields wellFormed declares
      rw [done]
      exact ⟨resembles, kept⟩
  · next other =>
      obtain ⟨cause, refused, -⟩ := setFields_refused wellFormed other
      rw [refused]
      exact overlaid_nil holds

theorem isActive_of_holds (holds : record.Holds last) (wellFormed : record.schema.WellFormed)
    {flag : String} (soft : record.schema.deletion = .soft flag)
    (declares : record.schema.Declares [flag]) : record.isActive = (last flag == .bool true) := by
  obtain ⟨field, member, rfl⟩ := declares flag (List.mem_singleton.mpr rfl)
  rw [isActive, soft]
  dsimp only
  rw [holds.value? wellFormed, wellFormed.field?_name member]
  rfl

end Record

namespace Store
variable {σ : Type} {record : Record} {last : String → Value}

theorem record_setAndSave (record : Record) (values : Values) (store : Store σ) :
    ((setAndSave record values).run store).1.record =
      (record.setFields values).toOption.getD record := by
  rw [setAndSave]
  cases record.setFields values <;> rfl

theorem record_flag (record : Record) (name : String) (active : Bool) (store : Store σ) :
    ((Store.flag record name active).run store).1.record =
      (record.set name (.bool active)).toOption.getD record := by
  rw [Store.flag]
  cases record.set name (.bool active) <;> rfl

/-- To delete or activate a record sets its flag, unless there is none or it is so already. -/
theorem overlaid_switch {declaration : Declaration} (valid : declaration.schema = .ok record.schema)
    (holds : record.Holds last) (active : Bool) (store : Store σ) :
    record.Overlaid last (record.schema.switches last active)
      ((switch record active).run store).1.record := by
  have wellFormed := declaration.wellFormed_schema valid
  cases deletion : record.schema.deletion with
  | hard =>
      have none : record.schema.switches last active = [] := by rw [Schema.switches, deletion]
      have same : ((switch record active).run store).1.record = record := by
        cases active with
        | false =>
            rw [switch, if_neg Bool.false_ne_true, delete, deletion]
            rfl
        | true =>
            rw [switch, if_pos rfl, activate, deletion]
            rfl
      rw [none, same]
      exact Record.overlaid_nil holds
  | soft flag =>
      have declares : record.schema.Declares [flag] := by
        obtain ⟨field, member, named, -⟩ := declaration.flag_of_schema valid deletion
        intro name only
        rw [List.mem_singleton.mp only]
        exact ⟨field, member, named⟩
      rw [Schema.switches, deletion, switch_soft deletion,
        Record.isActive_of_holds holds wellFormed deletion declares]
      dsimp only
      split
      · exact Record.overlaid_nil holds
      · have set := Record.overlaid_set holds wellFormed flag (.bool active)
        rw [if_pos declares] at set
        rw [record_flag]
        exact set

end Store

/-- The record after a change holds what the change sets over what it held, whether the change succeeds
or fails, and whatever the store does. -/
theorem Change.overlaid {σ : Type} {declaration : Declaration} {record : Record}
    {last : String → Value} (valid : declaration.schema = .ok record.schema)
    (holds : record.Holds last) (change : Change) (store : Store σ) :
    record.Overlaid last (change.sets record.schema last) ((change.run record).run store).1 := by
  have wellFormed := declaration.wellFormed_schema valid
  cases change with
  | set name value => exact Record.overlaid_set holds wellFormed name value
  | setFields values => exact Record.overlaid_setFields holds wellFormed values
  | save names => exact Record.overlaid_nil holds
  | setAndSave values =>
      show Record.Overlaid record last _ ((Store.setAndSave record values).run store).1.record
      rw [Store.record_setAndSave]
      exact Record.overlaid_setFields holds wellFormed values
  | delete => exact Store.overlaid_switch valid holds false store
  | activate => exact Store.overlaid_switch valid holds true store

/-! ## Ledgers -/

/-- A record, and beside it what is to be read of it: the schema and the identifier that it came with,
and for each name the value that was last set. -/
structure Ledger where
  record : Record
  schema : Schema
  id : Value
  last : String → Value

namespace Ledger
variable {σ : Type}

def opened (record : Record) (last : String → Value) : Ledger :=
  ⟨record, record.schema, record.id, last⟩

def after (ledger : Ledger) (change : Change) (store : Store σ) : Ledger :=
  { ledger with
    record := ((change.run ledger.record).run store).1
    last := Record.overlay (change.sets ledger.schema ledger.last) ledger.last }

structure Kept (ledger : Ledger) : Prop where
  declared : ∃ declaration : Declaration, declaration.schema = .ok ledger.schema
  schema : ledger.record.schema = ledger.schema
  id : ledger.record.id = ledger.id
  holds : ledger.record.Holds ledger.last

/-- The step that carries all that is said of records. -/
theorem Kept.after {ledger : Ledger} (kept : ledger.Kept) (change : Change) (store : Store σ) :
    (ledger.after change store).Kept := by
  obtain ⟨declaration, valid⟩ := kept.declared
  rw [← kept.schema] at valid
  obtain ⟨resembles, holds⟩ := change.overlaid valid kept.holds store
  rw [kept.schema] at holds
  exact ⟨kept.declared, resembles.schema.trans kept.schema, resembles.id.trans kept.id, holds⟩

/-- All that can be read of the record: one value for each field, under its name the value that was last
set, and the identifier under its own.  To set a field changes no other. -/
structure Reports (ledger : Ledger) : Prop where
  declared : ∃ declaration : Declaration, declaration.schema = .ok ledger.schema
  schema : ledger.record.schema = ledger.schema
  filled : ledger.record.values.length = ledger.schema.fields.length
  id : ledger.record.id = ledger.id
  value? : ∀ field ∈ ledger.schema.fields,
    ledger.record.value? field.name = some (ledger.last field.name)
  get : ∀ field ∈ ledger.schema.fields, ledger.record.get field.name = .ok (ledger.last field.name)
  get_id : ledger.record.get ledger.schema.idColumn = .ok ledger.id
  getFields : ∀ names, (∀ name ∈ names, ledger.schema.knows name = true) →
    ∃ values : Values, ledger.record.getFields (some names) = .ok values ∧
      values.entries = names.eraseDups.map fun name =>
        (name, if name = ledger.schema.idColumn then ledger.id else ledger.last name)
  getFields_none : ∃ values : Values, ledger.record.getFields none = .ok values ∧
    values.entries = ledger.schema.fields.map fun field => (field.name, ledger.last field.name)
  toJson : ∃ members, ledger.record.toJson = .object members ∧ (members.map Prod.fst).Nodup ∧
    members.Perm ((ledger.schema.idColumn, ledger.id.toJson) ::
      ledger.schema.fields.map fun field => (field.name, (ledger.last field.name).toJson))
  set : ∀ name value changed, ledger.record.set name value = .ok changed →
    changed.value? name = some value ∧ changed.id = ledger.id ∧
      ∀ other, other ≠ name → changed.value? other = ledger.record.value? other

theorem Kept.reports {ledger : Ledger} (kept : ledger.Kept) : ledger.Reports := by
  obtain ⟨record, schema, id, last⟩ := ledger
  obtain ⟨⟨declaration, valid⟩, same, came, holds⟩ := kept
  obtain rfl : record.schema = schema := same
  obtain rfl : record.id = id := came
  have wellFormed := declaration.wellFormed_schema valid
  have known : ∀ field ∈ record.schema.fields, record.schema.knows field.name = true := by
    intro field member
    exact (wellFormed.knows_iff.mpr ⟨field, wellFormed.field?_name member⟩).1
  refine ⟨⟨declaration, valid⟩, rfl, holds.filled, rfl, ?_, ?_, ?_, ?_,
    holds.getFields_none wellFormed, holds.toJson wellFormed, ?_⟩
  · intro field member
    rw [holds.value? wellFormed, wellFormed.field?_name member]
    rfl
  · intro field member
    rw [holds.get wellFormed (known field member), if_neg (wellFormed.apart field member)]
  · rw [holds.get wellFormed (by simp [Schema.knows]), if_pos rfl]
  · intro names all
    exact holds.getFields wellFormed all
  · intro name value changed done
    have declares := Record.declares_of_set done
    obtain ⟨field, member, rfl⟩ := declares name (List.mem_singleton.mpr rfl)
    obtain ⟨index, position, found⟩ := wellFormed.position?_name member
    have inside : index < record.values.length :=
      holds.filled ▸ (List.getElem?_eq_some_iff.mp found).1
    have put := Record.set_eq_put (wellFormed.apart field member) position value
    obtain rfl : record.put index value = changed := Except.ok.inj (put.symm.trans done)
    exact ⟨Record.value?_put_self position inside value, rfl,
      fun other differs => Record.value?_put_of_ne position differs value⟩

end Ledger

/-! ## All records of a program -/

/-- The records that a program may come to have, each with its ledger: what it has created or found in
stores of its own, copies of that, and what has become of them by changes, each made through any store
whatever. -/
inductive Shelf.Reached : List Ledger → Prop
  | empty : Reached []
  | create {shelf : List Ledger} {σ : Type} {store after : Store σ} {entity : String}
      {values : Values} {record : Record} (before : Reached shelf) (started : store.Reached)
      (created : runOn (Store.create entity values) store = (.ok record, after)) :
      Reached (shelf ++ [.opened record fun name => (values.get? name).getD .null])
  | search {shelf : List Ledger} {σ : Type} {store after : Store σ} {entity : String}
      {request : Search} {found : List Record} (before : Reached shelf)
      (started : store.Reached)
      (searched : runOn (Store.search entity request) store = (.ok found, after)) :
      Reached (shelf ++ found.map fun record =>
        .opened record fun name => (record.value? name).getD .null)
  | clone {shelf : List Ledger} {ledger : Ledger} (before : Reached shelf)
      (member : ledger ∈ shelf) : Reached (shelf ++ [ledger])
  | change {shelf : List Ledger} {index : Nat} {ledger : Ledger} {σ : Type}
      (before : Reached shelf) (there : shelf[index]? = some ledger) (change : Change)
      (store : Store σ) : Reached (shelf.set index (ledger.after change store))

namespace Ledger
variable {σ : Type} {store after : Store σ} {entity : String}

theorem kept_created {values : Values} {record : Record} (started : store.Reached)
    (created : runOn (Store.create entity values) store = (.ok record, after)) :
    (opened record fun name => (values.get? name).getD .null).Kept := by
  cases known : (runOn (Store.schema entity) store).1 with
  | error fault =>
      obtain ⟨-, later, failed, -⟩ := Store.create_unknown values known
      cases failed.symm.trans created
  | ok schema =>
      obtain ⟨declaration, valid⟩ := started.declared known
      obtain ⟨row, -, -, ⟨-, id, -, rfl⟩ | ⟨id, -, rfl⟩⟩ :=
        Store.create_ok_cases (declaration.wellFormed_schema valid) known created
      · exact ⟨⟨declaration, valid⟩, rfl, rfl, rfl⟩
      · exact ⟨⟨declaration, valid⟩, rfl, rfl, rfl⟩

theorem kept_found {request : Search} {found : List Record} (started : store.Reached)
    (searched : runOn (Store.search entity request) store = (.ok found, after)) {record : Record}
    (member : record ∈ found) :
    (opened record fun name => (record.value? name).getD .null).Kept := by
  obtain ⟨schema, known⟩ := Store.known_of_search (congrArg Prod.fst searched)
  obtain ⟨declaration, valid⟩ := started.declared known
  obtain ⟨row, read⟩ :=
    Store.ofRow_of_search known (congrArg Prod.fst searched) record member
  obtain rfl := Record.schema_ofRow read
  exact ⟨⟨declaration, valid⟩, rfl, rfl,
    Record.holds_value? (declaration.wellFormed_schema valid) (Record.filled_ofRow read)⟩

end Ledger

namespace Shelf

theorem Reached.kept {shelf : List Ledger} (reached : Reached shelf) :
    ∀ ledger ∈ shelf, ledger.Kept := by
  induction reached with
  | empty => exact fun ledger member => absurd member List.not_mem_nil
  | create before started created ih =>
      intro ledger member
      rcases List.mem_append.mp member with old | new
      · exact ih ledger old
      · rw [List.mem_singleton.mp new]
        exact Ledger.kept_created started created
  | search before started searched ih =>
      intro ledger member
      rcases List.mem_append.mp member with old | new
      · exact ih ledger old
      · obtain ⟨record, found, rfl⟩ := List.mem_map.mp new
        exact Ledger.kept_found started searched found
  | clone before source ih =>
      intro ledger member
      rcases List.mem_append.mp member with old | new
      · exact ih ledger old
      · rw [List.mem_singleton.mp new]
        exact ih _ source
  | change before there change store ih =>
      intro ledger member
      rcases List.mem_or_eq_of_mem_set member with old | rfl
      · exact ih ledger old
      · exact (ih _ (List.mem_of_getElem? there)).after change store

/-- Every record of a program reads as its ledger says: it keeps its identifier, and in each field stands
the value that was last set, however it is read. -/
theorem reads_as_ledgers {shelf : List Ledger} (reached : Reached shelf) :
    ∀ ledger ∈ shelf, ledger.Reports := by
  intro ledger member
  exact (reached.kept ledger member).reports

/-- A task is created and copied, and then deleted in a store that fails: its flag is cleared all the
same, its title and its identifier stay, and the copy is as it was. -/
theorem reads_as_ledgers_tasks :
    ∃ task copy : Ledger, Reached [task, copy] ∧
      task.record.value? "done" = some (.bool false) ∧
      task.record.get "title" = .ok (.str "plan") ∧ task.record.get "id" = .ok copy.id ∧
      copy.record.value? "done" = some (.bool true) := by
  let values : Values := ⟨[("title", .str "plan"), ("done", .bool true)], by decide⟩
  obtain ⟨after, created⟩ : ∃ after,
      runOn (Store.create "Task" values) Store.taskStore = (.ok Store.plan, after) := ⟨_, rfl⟩
  let copy : Ledger := .opened Store.plan fun name => (values.get? name).getD .null
  have first : Reached [copy] := .create .empty (.new ..) created
  have both : Reached [copy, copy] := .clone first (List.mem_singleton.mpr rfl)
  have there : [copy, copy][0]? = some copy := rfl
  have reached : Reached [copy.after .delete Store.fullStore, copy] :=
    .change both there .delete Store.fullStore
  have task := reads_as_ledgers reached _ (List.mem_cons_self ..)
  have other := reads_as_ledgers reached copy (by simp)
  refine ⟨_, copy, reached, ?_, ?_, ?_, ?_⟩
  · exact task.value? ⟨"done", .bool, "done"⟩ (by decide)
  · exact task.get ⟨"title", .string, "title"⟩ (by decide)
  · exact task.get_id
  · exact other.value? ⟨"done", .bool, "done"⟩ (by decide)

end Shelf

end RecordMapper
