import RecordMapper.Proofs.SortedMap
import RecordMapper.Proofs.Store.Update
/-! # What a record holds

The values of a record stand in a bare list, and belong to the fields by their places.  Where the list
is as long as that of the fields, a record holds one value for each name (`Record.Sound.holds`), and
this is the value that every way of reading tells (`Record.Holds.value?`, `Record.Holds.get`,
`Record.Holds.getFields`, `Record.Holds.toJson`).  To set fields is to overlay what is held with the
new values (`Record.Holds.setFields`). -/
set_option autoImplicit false
namespace RecordMapper

namespace Schema
variable {schema : Schema}

theorem WellFormed.position?_getElem (wellFormed : schema.WellFormed) {index : Nat} {field : Field}
    (found : schema.fields[index]? = some field) : schema.position? field.name = some index := by
  obtain ⟨place, position, there⟩ := wellFormed.position?_name (List.mem_of_getElem? found)
  have inside := (List.getElem?_eq_some_iff.mp there).1
  have same := (List.getElem?_inj inside (List.Nodup.of_map _ wellFormed.distinct)).mp
    (there.trans found.symm)
  rw [position, same]

theorem position?_of_field?_eq_none {name : String} (unknown : schema.field? name = none) :
    schema.position? name = none := by
  rw [position?, List.findIdx?_eq_none_iff]
  intro field member
  simpa using List.find?_eq_none.mp unknown field member

def Declares (schema : Schema) (names : List String) : Prop :=
  ∀ name ∈ names, ∃ field ∈ schema.fields, field.name = name

instance (schema : Schema) (names : List String) : Decidable (schema.Declares names) :=
  inferInstanceAs (Decidable (∀ name ∈ names, ∃ field ∈ schema.fields, field.name = name))

theorem WellFormed.declares_iff (wellFormed : schema.WellFormed) {names : List String} :
    schema.Declares names ↔ schema.checkFields names = .ok () ∧ schema.idColumn ∉ names := by
  rw [← refuseIdentifier_eq_ok_iff, wellFormed.checked_iff]
  constructor
  · intro declares name member
    obtain ⟨field, fieldMember, rfl⟩ := declares name member
    exact ⟨field, wellFormed.field?_name fieldMember⟩
  · intro fields name member
    obtain ⟨field, found⟩ := fields name member
    exact ⟨field, field?_some found⟩

end Schema

namespace Record
variable {record : Record} {held : String → Value}

/-- The schema is that of a valid declaration, and each field has its value. -/
structure Sound (record : Record) : Prop where
  declared : ∃ declaration : Declaration, declaration.schema = .ok record.schema
  filled : record.values.length = record.schema.fields.length

theorem Sound.wellFormed (sound : record.Sound) : record.schema.WellFormed := by
  obtain ⟨declaration, valid⟩ := sound.declared
  exact declaration.wellFormed_schema valid

/-- The values are those of the fields, each by its name. -/
def Holds (record : Record) (held : String → Value) : Prop :=
  record.values = record.schema.fields.map fun field => held field.name

theorem Holds.filled (holds : record.Holds held) :
    record.values.length = record.schema.fields.length := by
  rw [holds, List.length_map]

theorem holds_value? (wellFormed : record.schema.WellFormed)
    (filled : record.values.length = record.schema.fields.length) :
    record.Holds fun name => (record.value? name).getD .null := by
  apply List.ext_getElem?
  intro index
  rw [List.getElem?_map]
  cases found : record.schema.fields[index]? with
  | none =>
      rw [List.getElem?_eq_none_iff, ← filled] at found
      exact List.getElem?_eq_none found
  | some field =>
      have inside : index < record.values.length :=
        filled ▸ (List.getElem?_eq_some_iff.mp found).1
      simp [value?, wellFormed.position?_getElem found, read, inside]

theorem Sound.holds (sound : record.Sound) :
    record.Holds fun name => (record.value? name).getD .null :=
  holds_value? sound.wellFormed sound.filled

/-! ## Reading -/

namespace Holds

theorem value? (holds : record.Holds held) (wellFormed : record.schema.WellFormed) (name : String) :
    record.value? name = (record.schema.field? name).map fun _ => held name := by
  rw [Record.value?]
  cases found : record.schema.field? name with
  | none => rw [Schema.position?_of_field?_eq_none found]; rfl
  | some field =>
      obtain ⟨member, rfl⟩ := Schema.field?_some found
      obtain ⟨index, position, there⟩ := wellFormed.position?_name member
      rw [position]
      have here : record.values[index]? = some (held field.name) := by
        rw [holds, List.getElem?_map, there]
        rfl
      simp [read, here]

/-- What is read under a known name: the identifier under its own, and else what is held. -/
theorem reads (holds : record.Holds held) (wellFormed : record.schema.WellFormed) {name : String}
    (known : record.schema.knows name = true) :
    (if name = record.schema.idColumn then record.id else (record.value? name).getD .null) =
      if name = record.schema.idColumn then record.id else held name := by
  by_cases identifier : name = record.schema.idColumn
  · rw [if_pos identifier, if_pos identifier]
  · obtain ⟨field, found⟩ := wellFormed.knows_iff.mp ⟨known, identifier⟩
    rw [holds.value? wellFormed, found]
    rfl

theorem get (holds : record.Holds held) (wellFormed : record.schema.WellFormed) {name : String}
    (known : record.schema.knows name = true) :
    record.get name = .ok (if name = record.schema.idColumn then record.id else held name) := by
  rw [get_of_knows wellFormed known, holds.reads wellFormed known]

theorem fieldValues (holds : record.Holds held) :
    record.fieldValues = record.schema.fields.map fun field => (field.name, held field.name) := by
  rw [Record.fieldValues, holds]
  exact List.zip_map' ..

theorem getFields_none (holds : record.Holds held) (wellFormed : record.schema.WellFormed) :
    ∃ values : Values, record.getFields none = .ok values ∧
      values.entries = record.schema.fields.map fun field => (field.name, held field.name) := by
  refine ⟨_, rfl, ?_⟩
  rw [OrderedMap.entries_ofList, holds.fieldValues]
  rw [holds.fieldValues, List.map_map]
  exact wellFormed.distinct

theorem getFields (holds : record.Holds held) (wellFormed : record.schema.WellFormed)
    {names : List String} (known : ∀ name ∈ names, record.schema.knows name = true) :
    ∃ values : Values, record.getFields (some names) = .ok values ∧
      values.entries = names.eraseDups.map fun name =>
        (name, if name = record.schema.idColumn then record.id else held name) := by
  obtain ⟨values, gotten, entries⟩ := getFields_of_knows wellFormed known
  refine ⟨values, gotten, entries.trans (List.map_congr_left fun name member => ?_)⟩
  rw [holds.reads wellFormed (known name (List.mem_eraseDups.mp member))]

theorem toJson (holds : record.Holds held) (wellFormed : record.schema.WellFormed) :
    ∃ members, record.toJson = .object members ∧ (members.map Prod.fst).Nodup ∧
      members.Perm ((record.schema.idColumn, record.id.toJson) ::
        record.schema.fields.map fun field => (field.name, (held field.name).toJson)) := by
  have fields : (record.fieldValues.map fun entry => (entry.1, entry.2.toJson)) =
      record.schema.fields.map fun field => (field.name, (held field.name).toJson) := by
    rw [holds.fieldValues, List.map_map]
    rfl
  have distinct : (((record.schema.idColumn, record.id.toJson) ::
      record.schema.fields.map fun field => (field.name, (held field.name).toJson)).map
        Prod.fst).Nodup := by
    rw [List.map_cons, List.map_map]
    refine List.nodup_cons.mpr ⟨fun member => ?_, wellFormed.distinct⟩
    obtain ⟨field, fieldMember, same⟩ := List.mem_map.mp member
    exact wellFormed.apart field fieldMember same
  have kept := SortedMap.ofList_perm _ distinct
  refine ⟨_, ?_, (kept.map Prod.fst).nodup_iff.mpr distinct, kept⟩
  rw [Record.toJson, fields]
  rfl

end Holds

/-! ## Setting -/

/-- What is held when the entries are set over what was held. -/
def overlay (entries : List (String × Value)) (held : String → Value) (name : String) : Value :=
  (entries.lookup name).getD (held name)

theorem overlay_of_mem {entries : List (String × Value)} (distinct : (entries.map Prod.fst).Nodup)
    {name : String} {value : Value} (member : (name, value) ∈ entries) :
    overlay entries held name = value := by
  rw [overlay, (mem_iff_lookup distinct).mp member]
  rfl

theorem overlay_of_notMem {entries : List (String × Value)} {name : String}
    (other : name ∉ entries.map Prod.fst) : overlay entries held name = held name := by
  rw [overlay, lookup_eq_none_of_notMem other]
  rfl

/-- Distinct fields are set one after another, and none of them is refused. -/
theorem Holds.foldlM_set (holds : record.Holds held) (wellFormed : record.schema.WellFormed)
    (entries : List (String × Value)) (distinct : (entries.map Prod.fst).Nodup)
    (declares : record.schema.Declares (entries.map Prod.fst)) :
    ∃ changed, entries.foldlM (fun record entry => record.set entry.1 entry.2) record = .ok changed ∧
      record.Resembles changed ∧ changed.Holds (overlay entries held) := by
  obtain ⟨entity, schema, id, values⟩ := record
  obtain rfl : values = schema.fields.map fun field => held field.name := holds
  obtain ⟨known, free⟩ := wellFormed.declares_iff.mp declares
  refine ⟨_, foldlM_set_map wellFormed entity id entries distinct ?_ ?_ _, ⟨rfl, rfl, rfl⟩, rfl⟩
  · intro entry member
    exact Schema.checkFields_eq_ok_iff.mp known entry.1 (List.mem_map_of_mem member)
  · intro entry member same
    exact free (same ▸ List.mem_map_of_mem member)

theorem Holds.set (holds : record.Holds held) (wellFormed : record.schema.WellFormed)
    {name : String} (value : Value) (declares : record.schema.Declares [name]) :
    ∃ changed, record.set name value = .ok changed ∧ record.Resembles changed ∧
      changed.Holds (overlay [(name, value)] held) := by
  obtain ⟨changed, done, resembles, kept⟩ := holds.foldlM_set wellFormed [(name, value)]
    (List.nodup_singleton name) declares
  refine ⟨changed, ?_, resembles, kept⟩
  obtain ⟨only, here, there⟩ := ok_of_bind_ok done
  obtain rfl := Except.ok.inj there
  exact here

theorem Holds.setFields (holds : record.Holds held) (wellFormed : record.schema.WellFormed)
    {values : Values} (declares : record.schema.Declares values.keys) :
    ∃ changed, record.setFields values = .ok changed ∧ record.Resembles changed ∧
      changed.Holds (overlay values.entries held) := by
  obtain ⟨known, free⟩ := wellFormed.declares_iff.mp declares
  rw [setFields_eq_foldlM known free]
  exact holds.foldlM_set wellFormed values.entries values.nodup_keys declares

end Record

end RecordMapper
