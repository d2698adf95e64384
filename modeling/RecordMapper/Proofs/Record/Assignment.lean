import RecordMapper.Proofs.Record.Holding
import RecordMapper.Proofs.Store.SoftDelete
/-! # Setting fields all or nothing

In memory the fields of a record are set one after another, so that one that is refused would leave
those before it changed.  The names are all checked first, and no field is refused once they have
passed (`Record.setInPlace_ok`): either every field is set, or none (`setFields_all_or_nothing`). -/
set_option autoImplicit false
namespace RecordMapper

/-- Why setting the named fields is refused: the first unknown name, or else the identifier. -/
inductive Schema.Refusal (schema : Schema) (names : List String) : Misuse → Prop
  | unknown {front back : List String} {name : String} (shape : names = front ++ name :: back)
      (known : ∀ earlier ∈ front, schema.knows earlier = true)
      (unknown : schema.knows name = false) :
      Refusal schema names (.unknownField schema.table name)
  | identifier (known : ∀ name ∈ names, schema.knows name = true)
      (named : schema.idColumn ∈ names) :
      Refusal schema names (.identifierSet schema.table schema.idColumn)

theorem Schema.refusal_of_checkFields {schema : Schema} {names : List String} {cause : Misuse}
    (failed : schema.checkFields names = .error cause) : schema.Refusal names cause := by
  rw [checkFields] at failed
  cases found : names.find? fun name => !schema.knows name with
  | none =>
      rw [found] at failed
      cases failed
  | some name =>
      rw [found] at failed
      obtain rfl := Except.error.inj failed
      obtain ⟨unknown, front, back, shape, known⟩ := List.find?_eq_some_iff_append.mp found
      refine .unknown shape ?_ (by simpa using unknown)
      intro earlier member
      simpa using known earlier member

namespace Record
variable {record changed : Record} {values : Values}

/-- Fields are set one after another, up to the first that is refused; the record as it is then. -/
def assign : List (String × Value) → Record → Except Misuse Unit × Record
  | [], record => (.ok (), record)
  | (name, value) :: rest, record =>
    match record.set name value with
    | .ok changed => assign rest changed
    | .error cause => (.error cause, record)

def setInPlace (record : Record) (values : Values) : Except Misuse Unit × Record :=
  match record.schema.checkFields values.keys with
  | .error cause => (.error cause, record)
  | .ok () =>
    if values.contains record.schema.idColumn then
      (.error (.identifierSet record.schema.table record.schema.idColumn), record)
    else assign values.entries record

theorem assign_of_foldlM {entries : List (String × Value)}
    (done : entries.foldlM (fun record entry => record.set entry.1 entry.2) record = .ok changed) :
    assign entries record = (.ok (), changed) := by
  induction entries generalizing record with
  | nil =>
      obtain rfl := Except.ok.inj done
      rfl
  | cons entry rest ih =>
      obtain ⟨name, value⟩ := entry
      obtain ⟨next, here, there⟩ := ok_of_bind_ok done
      have set : record.set name value = .ok next := here
      rw [assign, set]
      exact ih there

theorem setInPlace_ok (wellFormed : record.schema.WellFormed)
    (declares : record.schema.Declares values.keys) (done : record.setFields values = .ok changed) :
    record.setInPlace values = (.ok (), changed) := by
  obtain ⟨known, free⟩ := wellFormed.declares_iff.mp declares
  have absent : values.contains record.schema.idColumn = false := by
    simpa [OrderedMap.contains] using free
  rw [setFields_eq_foldlM known free] at done
  rw [setInPlace, known, absent]
  exact assign_of_foldlM done

/-- Names that are not all those of fields are refused before anything is set. -/
theorem setFields_refused (wellFormed : record.schema.WellFormed)
    (other : ¬ record.schema.Declares values.keys) :
    ∃ cause, record.setFields values = .error cause ∧ record.schema.Refusal values.keys cause ∧
      record.setInPlace values = (.error cause, record) := by
  rw [wellFormed.declares_iff] at other
  cases checked : record.schema.checkFields values.keys with
  | error cause =>
      refine ⟨cause, ?_, Schema.refusal_of_checkFields checked, ?_⟩
      · rw [setFields, checked]
        rfl
      · rw [setInPlace, checked]
  | ok _ =>
      have named : record.schema.idColumn ∈ values.keys := by
        apply Decidable.not_not.mp
        intro free
        exact other ⟨checked, free⟩
      have contained : values.contains record.schema.idColumn = true := by
        simpa [OrderedMap.contains] using named
      refine ⟨_, ?_, .identifier (Schema.checkFields_eq_ok_iff.mp checked) named, ?_⟩
      · rw [setFields, checked, contained]
        rfl
      · rw [setInPlace, checked, contained]
        rfl

namespace Sound

theorem setFields_ok_iff (sound : record.Sound) :
    (∃ changed, record.setFields values = .ok changed) ↔ record.schema.Declares values.keys := by
  constructor
  · rintro ⟨changed, done⟩
    apply Decidable.not_not.mp
    intro other
    obtain ⟨cause, refused, -⟩ := setFields_refused sound.wellFormed other
    cases refused.symm.trans done
  · intro declares
    obtain ⟨changed, done, -⟩ := sound.holds.setFields sound.wellFormed declares
    exact ⟨changed, done⟩

/-- Where fields can be set, each of them holds its new value, and all else is as it was. -/
theorem of_setFields (sound : record.Sound) (done : record.setFields values = .ok changed) :
    record.Resembles changed ∧ changed.Sound ∧
      (∀ entry ∈ values.entries, changed.value? entry.1 = some entry.2) ∧
      ∀ name, name ∉ values.keys → changed.value? name = record.value? name := by
  have wellFormed := sound.wellFormed
  have declares := sound.setFields_ok_iff.mp ⟨changed, done⟩
  obtain ⟨other, again, resembles, kept⟩ := sound.holds.setFields wellFormed declares
  obtain rfl : other = changed := Except.ok.inj (again.symm.trans done)
  have same : other.schema.WellFormed := resembles.schema ▸ wellFormed
  refine ⟨resembles, ⟨resembles.schema ▸ sound.declared, kept.filled⟩, ?_, ?_⟩
  · intro entry member
    obtain ⟨field, fieldMember, named⟩ := declares entry.1 (List.mem_map_of_mem member)
    rw [kept.value? same, ← named, same.field?_name (resembles.schema ▸ fieldMember), named,
      overlay_of_mem values.nodup_keys member]
    rfl
  · intro name untouched
    rw [kept.value? same, sound.holds.value? wellFormed, resembles.schema,
      overlay_of_notMem untouched]

end Sound

end Record

theorem Store.setAndSave_refused {σ : Type} {record : Record} {values : Values} {cause : Misuse}
    (refused : record.setFields values = .error cause) (store : Store σ) :
    (setAndSave record values).run store = (⟨.error (.misuse cause), record⟩, store) := by
  rw [setAndSave, refused]
  rfl

/-- Fields can be set if and only if each name is that of a field.  Then each of them holds its new
value, and all else is as it was.  Otherwise the record is as it was, also where it is set in place,
and to set and save the fields changes neither the record nor the store. -/
theorem setFields_all_or_nothing {record : Record} (sound : record.Sound) (values : Values) :
    ((∃ changed, record.setFields values = .ok changed) ↔ record.schema.Declares values.keys) ∧
      (∀ changed, record.setFields values = .ok changed →
        record.setInPlace values = (.ok (), changed) ∧ record.Resembles changed ∧ changed.Sound ∧
          (∀ entry ∈ values.entries, changed.value? entry.1 = some entry.2) ∧
          ∀ name, name ∉ values.keys → changed.value? name = record.value? name) ∧
      ∀ cause, record.setFields values = .error cause →
        record.setInPlace values = (.error cause, record) ∧
          record.schema.Refusal values.keys cause ∧
          ∀ {σ : Type} (store : Store σ), (Store.setAndSave record values).run store =
            (⟨.error (.misuse cause), record⟩, store) := by
  refine ⟨sound.setFields_ok_iff, ?_, ?_⟩
  · intro changed done
    have declares := sound.setFields_ok_iff.mp ⟨changed, done⟩
    exact ⟨Record.setInPlace_ok sound.wellFormed declares done, sound.of_setFields done⟩
  · intro cause refused
    have other : ¬ record.schema.Declares values.keys := by
      intro declares
      obtain ⟨changed, done⟩ := sound.setFields_ok_iff.mpr declares
      cases refused.symm.trans done
    obtain ⟨same, again, refusal, left⟩ := Record.setFields_refused sound.wellFormed other
    obtain rfl : cause = same := Except.error.inj (refused.symm.trans again)
    exact ⟨left, refusal, fun store => Store.setAndSave_refused refused store⟩

/-- A task whose title is set keeps its flag; one that is also given an owner, which it has not, or an
identifier keeps its title too, and is not saved. -/
theorem setFields_plan :
    let titled : Values := ⟨[("title", .str "ship it")], by decide⟩
    let owned : Values := ⟨[("title", .str "ship it"), ("owner", .str "me")], by decide⟩
    let numbered : Values := ⟨[("title", .str "ship it"), ("id", .int 2)], by decide⟩
    Store.plan.Sound ∧
      (∃ changed, Store.plan.setFields titled = .ok changed ∧
        changed.value? "title" = some (.str "ship it") ∧
        changed.value? "done" = Store.plan.value? "done" ∧ changed.id = Store.plan.id) ∧
      ∀ values, values = owned ∨ values = numbered →
        ∃ cause, Store.plan.setFields values = .error cause ∧
          Store.plan.setInPlace values = (.error cause, Store.plan) ∧
          ∀ store : Store Unit, (Store.setAndSave Store.plan values).run store =
            (⟨.error (.misuse cause), Store.plan⟩, store) := by
  intro titled owned numbered
  have sound : Store.plan.Sound := ⟨⟨Store.tasks, rfl⟩, rfl⟩
  refine ⟨sound, ?_, ?_⟩
  · obtain ⟨succeeds, set, -⟩ := setFields_all_or_nothing sound titled
    obtain ⟨changed, done⟩ := succeeds.mpr (by decide)
    obtain ⟨-, resembles, -, named, others⟩ := set changed done
    exact ⟨changed, done, named ("title", .str "ship it") (List.mem_singleton.mpr rfl),
      others "done" (by decide), resembles.id⟩
  · intro values given
    obtain ⟨cause, refused⟩ : ∃ cause, Store.plan.setFields values = .error cause := by
      rcases given with rfl | rfl
      · exact ⟨_, rfl⟩
      · exact ⟨_, rfl⟩
    obtain ⟨left, -, unsaved⟩ := (setFields_all_or_nothing sound values).2.2 cause refused
    exact ⟨cause, refused, left, fun store => unsaved store⟩

end RecordMapper
