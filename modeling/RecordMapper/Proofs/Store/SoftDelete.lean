import RecordMapper.Proofs.Record
import RecordMapper.Proofs.Store.Found
import RecordMapper.Store.Write
/-! # Soft deletion

A record with a soft-delete flag is deleted and activated by setting that flag and saving it.  The flag
is set in memory before the backend is asked, and stays so when the backend fails
(`Store.switch_failed`): the record then passes for deleted or active, and to try again does nothing. -/
set_option autoImplicit false
namespace RecordMapper

namespace Record
variable {record : Record} {flag : String} {index : Nat}

theorem isActive_put (soft : record.schema.deletion = .soft flag)
    (position : record.schema.position? flag = some index) (inside : index < record.values.length)
    (active : Bool) : (record.put index (.bool active)).isActive = active := by
  rw [isActive, schema_put, soft]
  dsimp only
  rw [value?_put_self position inside]
  cases active <;> rfl

end Record

namespace Store
open Session (runOn)
variable {σ : Type}

def switch (record : Record) (active : Bool) : StateM (Store σ) Outcome :=
  if active then activate record else delete record

theorem switch_soft {record : Record} {flag : String} (soft : record.schema.deletion = .soft flag)
    (active : Bool) : (switch record active : StateM (Store σ) Outcome) =
      if record.isActive = active then pure ⟨.ok 0, record⟩ else Store.flag record flag active := by
  cases active with
  | true =>
      rw [switch, if_pos rfl, activate, soft]
  | false =>
      rw [switch, if_neg Bool.false_ne_true, delete, soft]
      dsimp only
      cases record.isActive <;> rfl

theorem flag_eq {record : Record} {name : String} {index : Nat}
    (free : name ≠ record.schema.idColumn) (position : record.schema.position? name = some index)
    (active : Bool) : (Store.flag record name active : StateM (Store σ) Outcome) =
      outcome (save (record.put index (.bool active)) (some [name])) (record.put index (.bool active)) := by
  rw [Store.flag, Record.set_eq_put free position]

/-- What a failed deletion or activation leaves behind: the record with its flag changed all the same,
and nothing else, so that a second attempt finds nothing to do and reports success. -/
theorem switch_failed {declaration : Declaration} {record left : Record} {flag : String}
    {active : Bool} {store after : Store σ} {fault : Fault}
    (valid : declaration.schema = .ok record.schema) (soft : record.schema.deletion = .soft flag)
    (filled : record.values.length = record.schema.fields.length)
    (failed : (switch record active).run store = (⟨.error fault, left⟩, after)) :
    record.isActive = !active ∧ left.isActive = active ∧ left.value? flag = some (.bool active) ∧
      record.Resembles left ∧
      (∀ name, name ≠ flag → left.value? name = record.value? name) ∧
      ∀ later : Store σ, (switch left active).run later = (⟨.ok 0, left⟩, later) := by
  obtain ⟨declared, passed⟩ := Declaration.passed_of_schema valid
  obtain ⟨field, member, rfl, -⟩ := Declaration.bool_of_checkDeletion (soft ▸ passed.deletion)
  have wellFormed := declaration.wellFormed_schema valid
  have free := wellFormed.apart field member
  obtain ⟨index, position, found⟩ := wellFormed.position?_name member
  have inside : index < record.values.length := filled ▸ (List.getElem?_eq_some_iff.mp found).1
  rw [switch_soft soft] at failed
  by_cases already : record.isActive = active
  · rw [if_pos already] at failed
    cases failed
  rw [if_neg already, flag_eq free position] at failed
  obtain rfl : record.put index (.bool active) = left := congrArg (fun ended => ended.1.record) failed
  have switched := Record.isActive_put soft position inside active
  refine ⟨Bool.eq_not_of_ne already, switched, Record.value?_put_self position inside _, ⟨rfl, rfl, rfl⟩,
    fun name differs => Record.value?_put_of_ne position differs _, fun later => ?_⟩
  rw [switch_soft ((record.schema_put index (.bool active)).symm ▸ soft), if_pos switched]
  rfl

def tasks : Declaration where
  table := "tasks"
  fields := [("title", none), ("done", some "bool")]
  deletion := .soft "done"

def tasksSchema : Schema where
  table := "tasks"
  idColumn := "id"
  fields := [⟨"title", .string, "title"⟩, ⟨"done", .bool, "done"⟩]
  saveFields := ["title", "done"]
  groupBy := []
  deletion := .soft "done"

def plan : Record := ⟨"Task", tasksSchema, .int 1, [.str "plan", .bool true]⟩

def full : Driver Unit
  | .exec _, state | .insert _, state => (.error "disk full", state)
  | call, state => answering [] call state

def fullStore : Store Unit :=
  Store.new full () .standard (Catalog.ofEntities fun _ => { declaration := tasks })

/-- The task is still there, but passes for deleted. -/
theorem failed_deletion_clears_flag :
    ∃ left after, (delete plan).run fullStore =
        (⟨.error (.store "updating `tasks` 1" ["disk full"]), left⟩, after) ∧
      plan.value? "done" = some (.bool true) ∧ left.value? "done" = some (.bool false) ∧
      (delete left).run after = (⟨.ok 0, left⟩, after) :=
  ⟨_, _, rfl, rfl, rfl, rfl⟩

theorem switch_failed_plan :
    ∃ left after, (switch plan false).run fullStore =
        (⟨.error (.store "updating `tasks` 1" ["disk full"]), left⟩, after) ∧
      plan.Resembles left ∧ left.value? "title" = plan.value? "title" ∧ left.isActive = false ∧
      ∀ later : Store Unit, (switch left false).run later = (⟨.ok 0, left⟩, later) := by
  have valid : tasks.schema = .ok plan.schema := rfl
  obtain ⟨left, after, failed⟩ : ∃ left after, (switch plan false).run fullStore =
      (⟨.error (.store "updating `tasks` 1" ["disk full"]), left⟩, after) := ⟨_, _, rfl⟩
  obtain ⟨-, inactive, -, resembles, others, again⟩ := switch_failed valid rfl rfl failed
  exact ⟨left, after, failed, resembles, others "title" (by decide), inactive, again⟩

end Store

end RecordMapper
