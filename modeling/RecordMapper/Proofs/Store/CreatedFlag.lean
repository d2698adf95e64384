import RecordMapper.Proofs.Store.ActiveSearch
import RecordMapper.Proofs.Store.Sent
import RecordMapper.Proofs.Store.Update
import RecordMapper.Proofs.Store.Written
/-! # The flag of a created record

A new record holds its soft-delete flag as it was given, and is active if that is the truth value
`true`; its row is active if what was given is truthy.  The two agree if and only if the flag was not
given as something else that is truthy (`Store.create_knows_active`): such a record passes for deleted
while its row is active, and to delete it does nothing. -/
set_option autoImplicit false
namespace RecordMapper

open Calendar (Offset)
open Session (runOn)

namespace Value
variable {value : Value}

theorem beq_true_iff : (value == .bool true) = true ↔ value = .bool true := by
  cases value with
  | bool b => cases b <;> simp [BEq.beq, agrees]
  | null | int | float | str | timestamp | json => simp [BEq.beq, agrees]

theorem toStorage_bool (value : Value) (zone : Offset) :
    value.toStorage .bool zone = .ok (if value.isNull then .null else Cell.ofBool value.isTruthy) := by
  rw [toStorage]
  cases value.isNull <;> rfl

theorem eq_one_iff_of_toStorage {zone : Offset} {cell : Cell}
    (stored : value.toStorage .bool zone = .ok cell) : cell = .int 1 ↔ value.isTruthy = true := by
  rw [toStorage_bool] at stored
  obtain rfl := Except.ok.inj stored
  cases value with
  | null => simp [isNull, isTruthy]
  | bool | int | float | str | timestamp | json =>
      show Cell.ofBool _ = _ ↔ _
      rw [Cell.ofBool]
      generalize isTruthy _ = truthy
      cases truthy <;> simp

end Value

theorem Declaration.flag_of_schema {declaration : Declaration} {schema : Schema} {flag : String}
    (valid : declaration.schema = .ok schema) (soft : schema.deletion = .soft flag) :
    ∃ field ∈ schema.fields, field.name = flag ∧ field.kind = .bool := by
  obtain ⟨declared, passed⟩ := passed_of_schema valid
  exact bool_of_checkDeletion (soft ▸ passed.deletion)

theorem Schema.newRow_plain {schema : Schema} {zone : Offset} {values : Values} {row : NewRow}
    (made : schema.newRow {} zone values = .ok row) :
    schema.checkFields values.keys = .ok () ∧ schema.idColumn ∉ values.keys ∧
      ∃ cells, List.Forall₂ (schema.Holds zone) values.entries cells ∧
        row = ⟨⟨schema.table, cells⟩, none⟩ := by
  obtain ⟨known, free, cells, keeps, ⟨-, same⟩ | ⟨id, param, generated, -⟩⟩ := newRow_cases made
  · exact ⟨known, free, cells, keeps, same⟩
  · cases generated

namespace Record

theorem position?_flag {declaration : Declaration} {record : Record} {flag : String}
    (valid : declaration.schema = .ok record.schema) (soft : record.schema.deletion = .soft flag)
    (filled : record.values.length = record.schema.fields.length) :
    ∃ index, flag ≠ record.schema.idColumn ∧ record.schema.position? flag = some index ∧
      index < record.values.length := by
  obtain ⟨field, member, rfl, -⟩ := declaration.flag_of_schema valid soft
  have wellFormed := declaration.wellFormed_schema valid
  obtain ⟨index, position, found⟩ := wellFormed.position?_name member
  exact ⟨index, wellFormed.apart field member, position,
    filled ▸ (List.getElem?_eq_some_iff.mp found).1⟩

/-- What is saved of a record whose flag has been set: the flag, and nothing else. -/
theorem update?_put_flag {declaration : Declaration} {record : Record} {flag : String} {index : Nat}
    (valid : declaration.schema = .ok record.schema) (soft : record.schema.deletion = .soft flag)
    (position : record.schema.position? flag = some index) (inside : index < record.values.length)
    (present : record.id.isNull = false) (zone : Offset) (active : Bool) :
    (record.put index (.bool active)).update? {} zone (some [flag]) =
      .ok (some (record.updateOf [(record.schema.column flag, Cell.ofBool active)])) := by
  obtain ⟨field, member, rfl, kind⟩ := declaration.flag_of_schema valid soft
  have known := (declaration.wellFormed_schema valid).field?_name member
  have stores : (record.put index (.bool active)).Stores {} zone field.name
      (record.schema.column field.name, Cell.ofBool active) :=
    ⟨field, .bool active, known, value?_put_self position inside _, Schema.column_of_field? known,
      by rw [kind]; rfl⟩
  have same : declaration.schema = .ok (record.put index (.bool active)).schema := valid
  exact (update?_eq_some_iff same).mpr
    ⟨present, by simp [requested], _, .cons stores .nil, rfl⟩

/-- A record of given values is active if its flag was given as `true`. -/
theorem isActive_ofValues {entity flag : String} {schema : Schema} {id : Value} {values : Values}
    (wellFormed : schema.WellFormed) (soft : schema.deletion = .soft flag) {field : Field}
    (member : field ∈ schema.fields) (named : field.name = flag) :
    (ofValues entity schema id values).isActive = true ↔ values.given field = .bool true := by
  have held := named ▸ value?_ofValues entity id values wellFormed member
  have same : (ofValues entity schema id values).schema.deletion = .soft flag := soft
  rw [isActive, same]
  dsimp only
  rw [held]
  exact Value.beq_true_iff

end Record

namespace Store
variable {σ : Type} {entity flag : String} {schema : Schema}

theorem runOn_create_plain {store : Store σ} {values : Values} {cells : List (String × Cell)}
    (wellFormed : schema.WellFormed) (known : (runOn (Store.schema entity) store).1 = .ok schema)
    (made : schema.newRow (store.hooks entity) store.dialect.zone values =
      .ok ⟨⟨schema.table, cells⟩, none⟩)
    (fields : schema.checkFields values.keys = .ok ()) (free : schema.idColumn ∉ values.keys)
    {id : Int64} {backend : σ}
    (inserted : store.driver (.insert (Sql.Insert.statement ⟨schema.table, cells⟩ store.dialect))
      store.backend = (.ok id, backend)) :
    ∃ after, runOn (create entity values) store =
        (.ok (Record.ofValues entity schema (.int id) values), after) ∧
      after.hooks entity = store.hooks entity ∧
      store.Called after
        [(.insert (Sql.Insert.statement ⟨schema.table, cells⟩ store.dialect), true)] := by
  obtain ⟨middle, found, agrees, looked⟩ := exists_looked known
  have asked := called_ask middle (.insert (Sql.Insert.statement ⟨schema.table, cells⟩ store.dialect))
  rw [← agrees.driver, ← agrees.backend] at inserted
  rw [ask_of_reply middle inserted] at asked
  refine ⟨_, ?_, ?_, looked.trans asked⟩
  · rw [runOn_create, found]
    dsimp only
    conv_lhs => rw [agrees.hooks entity, agrees.dialect, made]
    dsimp only
    rw [ask_of_reply middle inserted]
    dsimp only
    rw [Record.setFields_blank wellFormed entity (.int id) fields free]
    rfl
  · exact agrees.hooks entity

theorem called_delete_active {declaration : Declaration} {record : Record} {store : Store σ}
    (valid : declaration.schema = .ok record.schema) (soft : record.schema.deletion = .soft flag)
    (filled : record.values.length = record.schema.fields.length) (present : record.id.isNull = false)
    (plain : store.hooks record.entity = {}) (active : record.isActive = true) :
    ∃ succeeded, store.Called ((delete record).run store).2
      [(.exec ((record.updateOf [(record.schema.column flag, .int 0)]).statement store.dialect),
        succeeded)] := by
  obtain ⟨index, free, position, inside⟩ := Record.position?_flag valid soft filled
  have given := Record.update?_put_flag valid soft position inside present store.dialect.zone false
  rw [← plain, ← record.entity_put index (.bool false)] at given
  have cleared := called_save given
  rw [delete, soft]
  dsimp only
  rw [if_pos active, flag_eq free position]
  exact cleared

theorem delete_inactive {record : Record} (soft : record.schema.deletion = .soft flag)
    (inactive : record.isActive = false) (store : Store σ) :
    (delete record).run store = (⟨.ok 0, record⟩, store) := by
  rw [delete, soft]
  dsimp only
  rw [inactive]
  rfl

/-- The flag of a new record is bound as one if and only if it was given as something truthy, and the
record is active if and only if it was given as `true`.  A later deletion clears the flag in the row
if the record is active, and is silent otherwise. -/
theorem create_knows_active {declaration : Declaration} {values : Values} {row : NewRow}
    {value : Value} (store : Store σ) (valid : declaration.schema = .ok schema)
    (soft : schema.deletion = .soft flag)
    (known : (runOn (Store.schema entity) store).1 = .ok schema) (plain : store.hooks entity = {})
    (accepted : schema.newRow {} store.dialect.zone values = .ok row)
    (supplied : values.get? flag = some value) :
    ∃ (cells : List (String × Cell)) (index : Nat) (cell : Cell),
      List.Forall₂ (schema.Holds store.dialect.zone) values.entries cells ∧
      values.entries[index]? = some (flag, value) ∧
      cells[index]? = some (schema.column flag, cell) ∧
      (cell = .int 1 ↔ value.isTruthy = true) ∧
      let insertion := Call.insert (Sql.Insert.statement ⟨schema.table, cells⟩ store.dialect)
      ∀ (id : Int64) (backend : σ), store.driver insertion store.backend = (.ok id, backend) →
        ∃ record after, runOn (create entity values) store = (.ok record, after) ∧
          store.Called after [(insertion, true)] ∧ after.hooks entity = {} ∧ record.id = .int id ∧
          (record.isActive = true ↔ value = .bool true) ∧
          ((record.isActive = true ↔ cell = .int 1) ↔ (value.isTruthy = true → value = .bool true)) ∧
          ∀ later : Store σ, later.hooks entity = {} →
            (value = .bool true → ∃ succeeded, later.Called ((delete record).run later).2
              [(.exec ((record.updateOf [(schema.column flag, .int 0)]).statement later.dialect),
                succeeded)]) ∧
            (value ≠ .bool true → (delete record).run later = (⟨.ok 0, record⟩, later)) := by
  obtain ⟨field, member, rfl, kind⟩ := declaration.flag_of_schema valid soft
  have wellFormed := declaration.wellFormed_schema valid
  obtain ⟨fields, free, cells, holds, rfl⟩ := Schema.newRow_plain accepted
  obtain ⟨front, back, shape, -⟩ := List.lookup_eq_some_iff.mp supplied
  obtain ⟨lengths, each⟩ := List.forall₂_iff_get.mp holds
  have inside : front.length < values.entries.length := by simp [shape]
  have placed : values.entries[front.length]? = some (field.name, value) := by simp [shape]
  obtain ⟨_, here⟩ := List.getElem?_eq_some_iff.mp placed
  obtain ⟨other, found, column, stored⟩ := each front.length inside (lengths ▸ inside)
  simp only [List.get_eq_getElem, here] at found column stored
  rw [wellFormed.field?_name member] at found
  obtain rfl := Option.some.inj found
  rw [kind] at stored
  have bound := Value.eq_one_iff_of_toStorage stored
  refine ⟨cells, front.length, _, holds, placed, ?_, bound, fun id backend inserted => ?_⟩
  · rw [List.getElem?_eq_getElem (lengths ▸ inside),
      Schema.column_of_field? (wellFormed.field?_name member), ← column]
  rw [← plain] at accepted
  obtain ⟨after, created, same, called⟩ :=
    runOn_create_plain wellFormed known accepted fields free inserted
  have active : (Record.ofValues entity schema (.int id) values).isActive = true ↔
      value = .bool true := by
    rw [Record.isActive_ofValues wellFormed soft member rfl, Values.given, supplied]
    rfl
  have truthy : value = .bool true → value.isTruthy = true := by
    rintro rfl
    rfl
  refine ⟨_, after, created, called, same.trans plain, rfl, active, ?_,
    fun later plain => ⟨fun isTrue => ?_, fun other => ?_⟩⟩
  · rw [active, bound]
    exact ⟨fun agree => agree.mpr, fun canonical => ⟨truthy, canonical⟩⟩
  · exact called_delete_active valid soft (by simp [Record.ofValues]) rfl plain (active.mpr isTrue)
  · exact delete_inactive soft (Bool.eq_false_iff.mpr fun is => other (active.mp is)) later

def openTask : Values := ⟨[("title", .str "plan"), ("done", .int 1)], by decide⟩

/-- The row of the task is active, but its record is not, and to delete it does nothing. -/
theorem created_task_passes_for_deleted :
    ∃ record after, runOn (create "Task" openTask) taskStore = (.ok record, after) ∧
      after.journal = [.call (.insert ⟨"INSERT INTO `tasks` (`title`,`done`) VALUES (?,?)",
        [⟨.string, .str "plan"⟩, ⟨.integer, .int 1⟩]⟩) true] ∧
      record.isActive = false ∧ (delete record).run after = (⟨.ok 0, record⟩, after) :=
  ⟨_, _, rfl, rfl, rfl, rfl⟩

theorem create_knows_active_tasks :
    (∃ record after, runOn (create "Task" ⟨[("done", .bool true)], by decide⟩) taskStore =
        (.ok record, after) ∧ record.isActive = true ∧
      ∃ succeeded, after.Called ((delete record).run after).2
        [(.exec ((record.updateOf [("done", .int 0)]).statement after.dialect), succeeded)]) ∧
    ∃ (cells : List (String × Cell)) (index : Nat) (record : Record) (after : Store Unit),
      cells[index]? = some ("done", .int 1) ∧
        runOn (create "Task" openTask) taskStore = (.ok record, after) ∧
        taskStore.Called after
          [(.insert (Sql.Insert.statement ⟨"tasks", cells⟩ .standard), true)] ∧
        record.isActive ≠ true ∧ (delete record).run after = (⟨.ok 0, record⟩, after) := by
  have valid : tasks.schema = .ok tasksSchema := rfl
  have known : (runOn (Store.schema "Task") taskStore).1 = .ok tasksSchema := rfl
  constructor
  · let values : Values := ⟨[("done", .bool true)], by decide⟩
    have accepted : tasksSchema.newRow {} taskStore.dialect.zone values =
      .ok ⟨⟨"tasks", [("done", .int 1)]⟩, none⟩ := rfl
    obtain ⟨cells, index, cell, -, -, -, -, all⟩ :=
      create_knows_active taskStore valid rfl known rfl accepted rfl
    obtain ⟨record, after, created, -, plain, -, active, -, deleted⟩ := all 1 () rfl
    exact ⟨record, after, created, active.mpr rfl, (deleted after plain).1 rfl⟩
  · have accepted : tasksSchema.newRow {} taskStore.dialect.zone openTask =
      .ok ⟨⟨"tasks", [("title", .str "plan"), ("done", .int 1)]⟩, none⟩ := rfl
    obtain ⟨cells, index, cell, -, -, there, bound, all⟩ :=
      create_knows_active taskStore valid rfl known rfl accepted rfl
    obtain rfl := bound.mpr rfl
    obtain ⟨record, after, created, called, plain, -, active, -, deleted⟩ := all 1 () rfl
    have other : Value.int 1 ≠ .bool true := nofun
    exact ⟨cells, index, record, after, there, created, called, fun is => other (active.mp is),
      (deleted after plain).2 other⟩

end Store

end RecordMapper
