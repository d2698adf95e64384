import RecordMapper.Proofs.OrderedMap
import RecordMapper.Proofs.Record
import RecordMapper.Store.Write
/-! # What a save writes

A save writes each requested field once, where it was first requested, with the stored form of its value
(`Record.update?_eq_some_iff`).  It has nothing to write if and only if no field is requested
(`Record.update?_eq_none_iff`). -/
set_option autoImplicit false
namespace RecordMapper

open Calendar (Offset)

theorem nodup_eraseDups (names : List String) : names.eraseDups.Nodup := by
  have distinct := (OrderedMap.ofList (names.map fun name => (name, ()))).nodup_keys
  rw [OrderedMap.entries_ofList_map (fun _ => ()) names, List.map_map] at distinct
  exact List.Nodup.of_map _ distinct

namespace Schema
variable {schema : Schema}

theorem WellFormed.checked_iff (wellFormed : schema.WellFormed) {names : List String} :
    schema.checkFields names = .ok () ∧ schema.refuseIdentifier names = .ok () ↔
      ∀ name ∈ names, ∃ field, schema.field? name = some field := by
  rw [checkFields_eq_ok_iff, refuseIdentifier_eq_ok_iff]
  constructor
  · rintro ⟨known, free⟩ name member
    exact wellFormed.knows_iff.mp ⟨known name member, fun same => free (same ▸ member)⟩
  · intro fields
    refine ⟨fun name member => (wellFormed.knows_iff.mpr (fields name member)).1, ?_⟩
    exact fun written => (wellFormed.knows_iff.mpr (fields _ written)).2 rfl

theorem storedCell_eq_ok_iff {hooks : Hooks} {zone : Offset} {name : String} {value : Value}
    {entry : String × Cell} :
    schema.storedCell hooks zone name value = .ok entry ↔
      ∃ field, schema.field? name = some field ∧ entry.1 = field.column ∧
        (hooks.onStore name value).toStorage field.kind zone = .ok entry.2 := by
  rw [storedCell]
  cases schema.field? name with
  | none => simp
  | some field =>
      obtain ⟨column, cell⟩ := entry
      dsimp only
      constructor
      · intro done
        split at done
        · next stored converted =>
            obtain ⟨rfl, rfl⟩ := Prod.mk.inj (Except.ok.inj done)
            exact ⟨field, rfl, rfl, converted⟩
        · cases done
      · rintro ⟨other, same, rfl, converted⟩
        obtain rfl := Option.some.inj same
        rw [converted]

theorem columns_of_forall₂ {α : Type} (name : α → String) {R : α → String × Cell → Prop}
    (each : ∀ a entry, R a entry → ∃ field, schema.field? (name a) = some field ∧
      entry.1 = field.column)
    {l : List α} {cells : List (String × Cell)} (related : List.Forall₂ R l cells) :
    cells.map Prod.fst = l.map fun a => schema.column (name a) := by
  induction related with
  | nil => rfl
  | cons here _ ih =>
      obtain ⟨field, found, column⟩ := each _ _ here
      rw [List.map_cons, List.map_cons, ih, column, column_of_field? found]

theorem nodup_columns (distinct : (schema.fields.map Field.column).Nodup) {names : List String}
    (fields : ∀ name ∈ names, ∃ field, schema.field? name = some field) (once : names.Nodup) :
    (names.map schema.column).Nodup := by
  refine List.Nodup.map_on ?_ once
  intro name member other otherMember same
  obtain ⟨field, found⟩ := fields name member
  obtain ⟨otherField, otherFound⟩ := fields other otherMember
  rw [column_of_field? found, column_of_field? otherFound] at same
  obtain ⟨inside, rfl⟩ := field?_some found
  obtain ⟨otherInside, rfl⟩ := field?_some otherFound
  rw [List.inj_on_of_nodup_map distinct inside otherInside same]

end Schema

namespace Record
variable {record : Record} {hooks : Hooks} {zone : Offset}

def requested (record : Record) (names : Option (List String)) : List String :=
  names.getD record.schema.saveFields

/-- The column of the field `name`, and the cell that stores the value of the record. -/
def Stores (record : Record) (hooks : Hooks) (zone : Offset) (name : String)
    (entry : String × Cell) : Prop :=
  ∃ field value, record.schema.field? name = some field ∧ record.value? name = some value ∧
    entry.1 = field.column ∧ (hooks.onStore name value).toStorage field.kind zone = .ok entry.2

def updateOf (record : Record) (cells : List (String × Cell)) : Sql.Update where
  table := record.schema.table
  cells := cells
  conditions := record.schema.identifierCondition record.id
  compose := .and

theorem value?_of_field? (wellFormed : record.schema.WellFormed) {name : String} {field : Field}
    (found : record.schema.field? name = some field) :
    ∃ value, record.value? name = some value ∧ record.get name = .ok value := by
  obtain ⟨known, free⟩ := wellFormed.knows_iff.mpr ⟨field, found⟩
  obtain ⟨index, position⟩ := Schema.position?_of_knows known free
  refine ⟨record.read (.position index), ?_, ?_⟩
  · rw [value?, position]
    rfl
  · rw [get, Schema.place, if_neg free, position]
    rfl

/-- The requested names are checked, and those that are saved by default were checked before. -/
theorem fieldsToSave_eq_ok_iff {declaration : Declaration}
    (valid : declaration.schema = .ok record.schema) {names : Option (List String)}
    {found : List String} :
    record.fieldsToSave names = .ok found ↔ found = record.requested names ∧
      ∀ name ∈ record.requested names, ∃ field, record.schema.field? name = some field := by
  have wellFormed := declaration.wellFormed_schema valid
  cases names with
  | none =>
      have declared : ∀ name ∈ record.schema.saveFields,
          ∃ field, record.schema.field? name = some field := by
        intro name member
        obtain ⟨field, fieldMember, rfl⟩ := Declaration.saveFields_of_schema valid name member
        exact ⟨field, wellFormed.field?_name fieldMember⟩
      constructor
      · intro same
        exact ⟨(Except.ok.inj same).symm, declared⟩
      · rintro ⟨rfl, -⟩
        rfl
  | some names =>
      show _ ↔ found = names ∧ ∀ name ∈ names, _
      rw [← wellFormed.checked_iff, fieldsToSave]
      constructor
      · intro done
        obtain ⟨_, known, done⟩ := ok_of_bind_ok done
        obtain ⟨_, free, done⟩ := ok_of_bind_ok done
        exact ⟨(Except.ok.inj done).symm, known, free⟩
      · rintro ⟨rfl, known, free⟩
        rw [known, free]
        rfl

theorem get_of_knows (wellFormed : record.schema.WellFormed) {name : String}
    (known : record.schema.knows name = true) :
    record.get name = .ok (if name = record.schema.idColumn then record.id
      else (record.value? name).getD .null) := by
  by_cases identifier : name = record.schema.idColumn
  · rw [get, Schema.place, if_pos identifier, if_pos identifier]
    rfl
  · obtain ⟨field, found⟩ := wellFormed.knows_iff.mp ⟨known, identifier⟩
    obtain ⟨value, held, got⟩ := value?_of_field? wellFormed found
    rw [got, if_neg identifier, held]
    rfl

/-- What is read under known names, each name once. -/
theorem getFields_of_knows (wellFormed : record.schema.WellFormed) {names : List String}
    (known : ∀ name ∈ names, record.schema.knows name = true) :
    ∃ values, record.getFields (some names) = .ok values ∧
      values.entries = names.eraseDups.map fun name =>
        (name, if name = record.schema.idColumn then record.id
          else (record.value? name).getD .null) := by
  have each : List.Forall₂
      (fun name pair => ((record.get name).map fun value => (name, value)) = .ok pair) names
      (names.map fun name => (name, if name = record.schema.idColumn then record.id
        else (record.value? name).getD .null)) := by
    rw [List.forall₂_map_right_iff, List.forall₂_same]
    intro name member
    rw [get_of_knows wellFormed (known name member)]
    rfl
  refine ⟨_, ?_, OrderedMap.entries_ofList_map _ names⟩
  rw [getFields, mapM_eq_ok_iff.mpr each]
  rfl

theorem getFields_of_fields (wellFormed : record.schema.WellFormed) {names : List String}
    (fields : ∀ name ∈ names, ∃ field, record.schema.field? name = some field) :
    ∃ values, record.getFields (some names) = .ok values ∧
      values.entries = names.eraseDups.map fun name => (name, (record.value? name).getD .null) := by
  obtain ⟨values, gotten, entries⟩ := getFields_of_knows wellFormed fun name member =>
    (wellFormed.knows_iff.mpr (fields name member)).1
  refine ⟨values, gotten, entries.trans (List.map_congr_left fun name member => ?_)⟩
  rw [if_neg (wellFormed.knows_iff.mpr (fields name (List.mem_eraseDups.mp member))).2]

theorem storedCell_iff_stores (wellFormed : record.schema.WellFormed) {name : String}
    {entry : String × Cell} :
    record.schema.storedCell hooks zone name ((record.value? name).getD .null) = .ok entry ↔
      record.Stores hooks zone name entry := by
  rw [Schema.storedCell_eq_ok_iff]
  constructor
  · rintro ⟨field, found, column, stored⟩
    obtain ⟨value, held, -⟩ := value?_of_field? wellFormed found
    rw [held] at stored
    exact ⟨field, value, found, held, column, stored⟩
  · rintro ⟨field, value, found, held, column, stored⟩
    rw [held]
    exact ⟨field, found, column, stored⟩

theorem storedCells_eq_ok_iff (wellFormed : record.schema.WellFormed) {names : List String}
    {values : Values}
    (held : values.entries = names.map fun name => (name, (record.value? name).getD .null))
    {cells : List (String × Cell)} :
    record.schema.storedCells hooks zone values = .ok cells ↔
      List.Forall₂ (record.Stores hooks zone) names cells := by
  rw [Schema.storedCells, held, mapM_eq_ok_iff, List.forall₂_map_left_iff]
  simp only [storedCell_iff_stores wellFormed]

theorem fields_of_stores {names : List String} {cells : List (String × Cell)}
    (stores : List.Forall₂ (record.Stores hooks zone) names.eraseDups cells) :
    ∀ name ∈ names, ∃ field, record.schema.field? name = some field := by
  intro name member
  obtain ⟨entry, -, field, value, found, -⟩ :=
    exists_of_forall₂ stores (List.mem_eraseDups.mpr member)
  exact ⟨field, found⟩

theorem columns_of_stores {names : List String} {cells : List (String × Cell)}
    (stores : List.Forall₂ (record.Stores hooks zone) names cells) :
    cells.map Prod.fst = names.map record.schema.column := by
  refine Schema.columns_of_forall₂ (fun name => name) ?_ stores
  rintro name entry ⟨field, value, found, -, column, -⟩
  exact ⟨field, found, column⟩

theorem fields_of_update? {declaration : Declaration}
    (valid : declaration.schema = .ok record.schema) {names : Option (List String)}
    {update : Option Sql.Update} (given : record.update? hooks zone names = .ok update) :
    record.id.isNull = false ∧
      ∀ name ∈ record.requested names, ∃ field, record.schema.field? name = some field := by
  rw [update?] at given
  cases present : record.id.isNull with
  | true =>
      rw [present] at given
      cases given
  | false =>
      rw [present] at given
      obtain ⟨found, checked, -⟩ := ok_of_bind_ok given
      exact ⟨rfl, ((fieldsToSave_eq_ok_iff valid).mp (Fault.ofMisuse_eq_ok_iff.mp checked)).2⟩

theorem update?_of_fields (hooks : Hooks) (zone : Offset) {declaration : Declaration}
    (valid : declaration.schema = .ok record.schema) {names : Option (List String)}
    (present : record.id.isNull = false)
    (fields : ∀ name ∈ record.requested names, ∃ field, record.schema.field? name = some field) :
    ∃ values : Values,
      values.entries = (record.requested names).eraseDups.map (fun name =>
        (name, (record.value? name).getD .null)) ∧
      record.update? hooks zone names =
        if record.requested names = [] then .ok none
        else (record.schema.storedCells hooks zone values).map fun cells =>
          some (record.updateOf cells) := by
  obtain ⟨values, gotten, held⟩ := getFields_of_fields (declaration.wellFormed_schema valid) fields
  refine ⟨values, held, ?_⟩
  have checked := (fieldsToSave_eq_ok_iff valid).mpr ⟨rfl, fields⟩
  rw [update?, present, checked, if_neg Bool.false_ne_true]
  by_cases none : record.requested names = []
  · rw [if_pos none, none]
    rfl
  · have some' : ¬ (record.requested names).isEmpty = true := by simpa using none
    show (if (record.requested names).isEmpty = true then _ else _) = _
    rw [if_neg some', if_neg none, gotten]
    show (record.schema.storedCells hooks zone values >>= _) = _
    cases record.schema.storedCells hooks zone values <;> rfl

theorem update?_eq_none_iff {declaration : Declaration}
    (valid : declaration.schema = .ok record.schema) {names : Option (List String)} :
    record.update? hooks zone names = .ok none ↔
      record.id.isNull = false ∧ record.requested names = [] := by
  constructor
  · intro given
    obtain ⟨present, fields⟩ := fields_of_update? valid given
    obtain ⟨values, -, update⟩ := update?_of_fields hooks zone valid present fields
    rw [update] at given
    split at given
    · next none => exact ⟨present, none⟩
    · cases stored : record.schema.storedCells hooks zone values with
      | error fault => rw [stored] at given; cases given
      | ok cells => rw [stored] at given; cases given
  · rintro ⟨present, none⟩
    have fields : ∀ name ∈ record.requested names, ∃ field, record.schema.field? name = some field := by
      intro name member
      rw [none] at member
      cases member
    obtain ⟨values, -, update⟩ := update?_of_fields hooks zone valid present fields
    rw [update, if_pos none]

/-- A save writes the requested fields, each once and in the order of first request. -/
theorem update?_eq_some_iff {declaration : Declaration}
    (valid : declaration.schema = .ok record.schema) {names : Option (List String)}
    {update : Sql.Update} :
    record.update? hooks zone names = .ok (some update) ↔
      record.id.isNull = false ∧ record.requested names ≠ [] ∧
        ∃ cells, List.Forall₂ (record.Stores hooks zone) (record.requested names).eraseDups cells ∧
          update = record.updateOf cells := by
  have wellFormed := declaration.wellFormed_schema valid
  constructor
  · intro given
    obtain ⟨present, fields⟩ := fields_of_update? valid given
    obtain ⟨values, held, update⟩ := update?_of_fields hooks zone valid present fields
    rw [update] at given
    split at given
    · cases given
    · next some' =>
        cases stored : record.schema.storedCells hooks zone values with
        | error fault => rw [stored] at given; cases given
        | ok cells =>
            rw [stored] at given
            obtain rfl := Option.some.inj (Except.ok.inj given)
            exact ⟨present, some', cells, (storedCells_eq_ok_iff wellFormed held).mp stored, rfl⟩
  · rintro ⟨present, some', cells, stores, rfl⟩
    obtain ⟨values, held, update⟩ := update?_of_fields hooks zone valid present (fields_of_stores stores)
    rw [update, if_neg some', (storedCells_eq_ok_iff wellFormed held).mpr stores]
    rfl

end Record

end RecordMapper
