import RecordMapper.Proofs.Conversion
import RecordMapper.Proofs.Store.Update
/-! # Rows that are written

A new row keeps the given values, as the hooks have changed them, and behind them a generated identifier
(`Schema.newRow_cases`).  Values that fit their fields come to a row (`Schema.newRow_ok`), in which each
field has its cell in a column of its own (`Schema.toStorage_lookup`). -/
set_option autoImplicit false
namespace RecordMapper

open Calendar (Offset)

/-- Every value is that of a field, and fits its kind. -/
def Schema.Accepts (schema : Schema) (zone : Offset) (values : Values) : Prop :=
  ∀ entry ∈ values.entries, ∃ field, schema.field? entry.1 = some field ∧
    entry.2.Fits zone field.kind

theorem Schema.Accepts.key {schema : Schema} {zone : Offset} {values : Values}
    (accepts : schema.Accepts zone values) {name : String} (member : name ∈ values.keys) :
    ∃ field, schema.field? name = some field := by
  obtain ⟨entry, entryMember, rfl⟩ := List.mem_map.mp member
  obtain ⟨field, found, -⟩ := accepts entry entryMember
  exact ⟨field, found⟩

theorem Schema.Accepts.checkFields {schema : Schema} {zone : Offset} {values : Values}
    (accepts : schema.Accepts zone values) : schema.checkFields values.keys = .ok () := by
  refine checkFields_eq_ok_iff.mpr fun name member => ?_
  obtain ⟨field, found⟩ := accepts.key member
  simp [knows, found]

theorem Schema.Accepts.idColumn_notMem {schema : Schema} {zone : Offset} {values : Values}
    (accepts : schema.Accepts zone values) (wellFormed : schema.WellFormed) :
    schema.idColumn ∉ values.keys := by
  intro written
  obtain ⟨field, found⟩ := accepts.key written
  obtain ⟨member, same⟩ := field?_some found
  exact wellFormed.apart field member same

def Values.given (values : Values) (field : Field) : Value :=
  (values.get? field.name).getD .null

theorem Schema.Accepts.given_fits {schema : Schema} {zone : Offset} {values : Values}
    (accepts : schema.Accepts zone values) (wellFormed : schema.WellFormed) {field : Field}
    (member : field ∈ schema.fields) : (values.given field).Fits zone field.kind := by
  unfold Values.given
  cases found : values.get? field.name with
  | none => exact .null field.kind
  | some value =>
      obtain ⟨front, back, shape, -⟩ := List.lookup_eq_some_iff.mp found
      have inside : (field.name, value) ∈ values.entries := by
        rw [shape]
        simp
      obtain ⟨other, known, fits⟩ := accepts _ inside
      rw [wellFormed.field?_name member] at known
      obtain rfl := Option.some.inj known
      exact fits

theorem Record.value?_ofValues (entity : String) (id : Value) (values : Values) {schema : Schema}
    (wellFormed : schema.WellFormed) {field : Field} (member : field ∈ schema.fields) :
    (ofValues entity schema id values).value? field.name = some (values.given field) := by
  obtain ⟨index, position, found⟩ := wellFormed.position?_name member
  show (schema.position? field.name).map _ = _
  rw [position]
  simp [read, ofValues, found, Values.given]

namespace Schema
variable {schema : Schema} {zone : Offset}

/-! ## What a new row is made of -/

/-- The cell keeps what the hook makes of the value of the entry, in the column of its field. -/
def Keeps (schema : Schema) (hooks : Hooks) (zone : Offset) (entry : String × Value)
    (cell : String × Cell) : Prop :=
  ∃ field, schema.field? entry.1 = some field ∧ cell.1 = field.column ∧
    (hooks.onStore entry.1 entry.2).toStorage field.kind zone = .ok cell.2

theorem storedCells_iff_keeps {hooks : Hooks} {values : Values} {cells : List (String × Cell)} :
    schema.storedCells hooks zone values = .ok cells ↔
      List.Forall₂ (schema.Keeps hooks zone) values.entries cells := by
  rw [storedCells, mapM_eq_ok_iff]
  simp only [storedCell_eq_ok_iff]
  rfl

theorem newRow_cases {hooks : Hooks} {values : Values} {row : NewRow}
    (made : schema.newRow hooks zone values = .ok row) :
    schema.checkFields values.keys = .ok () ∧ schema.idColumn ∉ values.keys ∧
      ∃ cells, List.Forall₂ (schema.Keeps hooks zone) values.entries cells ∧
        ((hooks.generateId values = none ∧ row = ⟨⟨schema.table, cells⟩, none⟩) ∨
          ∃ id param, hooks.generateId values = some id ∧ id.toParam zone = some param ∧
            row = ⟨⟨schema.table, cells ++ [(schema.idColumn, param.value)]⟩, some id⟩) := by
  obtain ⟨_, known, made⟩ := ok_of_bind_ok made
  obtain ⟨_, free, made⟩ := ok_of_bind_ok made
  obtain ⟨cells, stored, made⟩ := ok_of_bind_ok made
  refine ⟨Fault.ofMisuse_eq_ok_iff.mp known,
    refuseIdentifier_eq_ok_iff.mp (Fault.ofMisuse_eq_ok_iff.mp free), cells,
    storedCells_iff_keeps.mp stored, ?_⟩
  split at made
  · next none => exact .inl ⟨none, (Except.ok.inj made).symm⟩
  · next id generated =>
    split at made
    · cases made
    · next param bound => exact .inr ⟨id, param, generated, bound, (Except.ok.inj made).symm⟩

/-! ## Rows that hold the values as they are given -/

def Holds (schema : Schema) (zone : Offset) (entry : String × Value) (cell : String × Cell) : Prop :=
  ∃ field, schema.field? entry.1 = some field ∧ cell.1 = field.column ∧
    entry.2.toStorage field.kind zone = .ok cell.2

theorem newRow_ok (wellFormed : schema.WellFormed) (minutes : zone.seconds % 60 = 0)
    {values : Values} (accepts : schema.Accepts zone values) :
    ∃ cells, schema.newRow {} zone values = .ok ⟨⟨schema.table, cells⟩, none⟩ ∧
      List.Forall₂ (schema.Holds zone) values.entries cells := by
  have stored : ∀ entry ∈ values.entries, ∃ cell,
      schema.storedCell {} zone entry.1 entry.2 = .ok cell ∧ schema.Holds zone entry cell := by
    intro entry member
    obtain ⟨field, found, fits⟩ := accepts entry member
    obtain ⟨cell, -, written, -⟩ := fits.restored minutes
    refine ⟨(field.column, cell), ?_, field, found, rfl, written⟩
    simp only [storedCell, found, written]
  obtain ⟨cells, all, holds⟩ := mapM_ok _ _ values.entries stored
  have known := accepts.checkFields
  have noIdentifier := refuseIdentifier_eq_ok_iff.mpr (accepts.idColumn_notMem wellFormed)
  refine ⟨cells, ?_, holds⟩
  have storedCells : schema.storedCells {} zone values = .ok cells := all
  simp only [newRow, known, noIdentifier, storedCells]
  rfl

theorem columns_holds {entries : List (String × Value)} {cells : List (String × Cell)}
    (holds : List.Forall₂ (schema.Holds zone) entries cells) :
    ∀ cell ∈ cells, ∃ field ∈ schema.fields, cell.1 = field.column := by
  induction holds with
  | nil => simp
  | cons here _ ih =>
      intro cell member
      rcases List.mem_cons.mp member with rfl | member
      · obtain ⟨field, found, column, -⟩ := here
        exact ⟨field, (field?_some found).1, column⟩
      · exact ih cell member

/-- In the column of a field stands its value, or `NULL` if there is none. -/
theorem toStorage_lookup (wellFormed : schema.WellFormed)
    (distinct : (schema.fields.map Field.column).Nodup) {entries : List (String × Value)}
    {cells : List (String × Cell)} (holds : List.Forall₂ (schema.Holds zone) entries cells)
    {field : Field} (member : field ∈ schema.fields) :
    ((entries.lookup field.name).getD .null).toStorage field.kind zone =
      .ok ((cells.lookup field.column).getD .null) := by
  induction holds with
  | nil => exact Value.toStorage_null field.kind zone
  | @cons entry cell entries cells here _ ih =>
      obtain ⟨name, value⟩ := entry
      obtain ⟨column, content⟩ := cell
      obtain ⟨other, found, rfl, written⟩ := here
      obtain ⟨otherMember, rfl⟩ := field?_some found
      by_cases same : field = other
      · subst same
        simpa using written
      · have names : (field.name == other.name) = false := by
          rw [beq_eq_false_iff_ne]
          exact fun equal => same (wellFormed.eq_of_name member otherMember equal)
        have columns : (field.column == other.column) = false := by
          rw [beq_eq_false_iff_ne]
          exact fun equal => same (List.inj_on_of_nodup_map distinct member otherMember equal)
        simp only [List.lookup_cons, names, columns]
        exact ih

end Schema

end RecordMapper
