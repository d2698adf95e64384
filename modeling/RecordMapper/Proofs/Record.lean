import RecordMapper.Proofs.Entity.Schema
/-! # Reading and setting the fields of a record

Names that were checked against the schema are found in every record of it: reading them gives a value
(`Record.get_ok`) and setting them succeeds (`Record.setFields_ok`).  Setting a field changes that
field (`Record.value?_put_self`) and no other (`Record.value?_put_of_ne`), so that a blank record
comes to hold just what it is given (`Record.setFields_blank`). -/
set_option autoImplicit false
namespace RecordMapper

namespace Schema
variable {schema : Schema}

theorem checkFields_eq_ok_iff {names : List String} :
    schema.checkFields names = .ok () ↔ ∀ name ∈ names, schema.knows name = true := by
  rw [checkFields]
  cases found : names.find? fun name => !schema.knows name with
  | none =>
      rw [List.find?_eq_none] at found
      exact ⟨fun _ name member => by simpa using found name member, fun _ => rfl⟩
  | some name =>
      have unknown : schema.knows name = false := by simpa using List.find?_some found
      refine ⟨fun checked => (by cases checked), fun known => ?_⟩
      rw [known name (List.mem_of_find?_eq_some found)] at unknown
      cases unknown

theorem position?_of_knows {name : String} (known : schema.knows name = true)
    (free : name ≠ schema.idColumn) : ∃ index, schema.position? name = some index := by
  have declared : (schema.field? name).isSome = true := by
    rw [knows, Bool.or_eq_true, beq_iff_eq] at known
    exact known.resolve_left free
  rw [field?, List.find?_isSome] at declared
  exact ⟨_, List.findIdx?_eq_some_of_exists declared⟩

theorem place_of_knows {name : String} (known : schema.knows name = true) :
    ∃ place, schema.place name = .ok place := by
  rw [place]
  by_cases identifier : name = schema.idColumn
  · exact ⟨.identifier, if_pos identifier⟩
  · obtain ⟨index, position⟩ := position?_of_knows known identifier
    refine ⟨.position index, ?_⟩
    rw [if_neg identifier, position]

theorem name_of_position? {name : String} {index : Nat} (position : schema.position? name = some index) :
    (schema.fields[index]?).map Field.name = some name := by
  obtain ⟨inside, named, -⟩ := List.findIdx?_eq_some_iff_getElem.mp position
  rw [List.getElem?_eq_getElem inside]
  exact congrArg some (of_decide_eq_true named)

end Schema

namespace Record

theorem get_ok {record : Record} {name : String} (known : record.schema.knows name = true) :
    ∃ value, record.get name = .ok value := by
  obtain ⟨place, found⟩ := Schema.place_of_knows known
  exact ⟨record.read place, by rw [get, found]; rfl⟩

def put (record : Record) (index : Nat) (value : Value) : Record :=
  { record with values := record.values.set index value }

@[simp] theorem schema_put (record : Record) (index : Nat) (value : Value) :
    (record.put index value).schema = record.schema := rfl

@[simp] theorem id_put (record : Record) (index : Nat) (value : Value) :
    (record.put index value).id = record.id := rfl

@[simp] theorem entity_put (record : Record) (index : Nat) (value : Value) :
    (record.put index value).entity = record.entity := rfl

theorem set_eq_put {record : Record} {name : String} {index : Nat}
    (free : name ≠ record.schema.idColumn) (position : record.schema.position? name = some index)
    (value : Value) : record.set name value = .ok (record.put index value) := by
  rw [set, if_neg free, position]
  rfl

theorem value?_put_self {record : Record} {name : String} {index : Nat}
    (position : record.schema.position? name = some index) (inside : index < record.values.length)
    (value : Value) : (record.put index value).value? name = some value := by
  rw [value?, schema_put, position]
  simp [read, put, inside]

theorem value?_put_of_ne {record : Record} {name other : String} {index : Nat}
    (position : record.schema.position? name = some index) (differs : other ≠ name) (value : Value) :
    (record.put index value).value? other = record.value? other := by
  rw [value?, value?, schema_put]
  cases found : record.schema.position? other with
  | none => rfl
  | some place =>
      have apart : index ≠ place := by
        rintro rfl
        have same := (Schema.name_of_position? found).symm.trans (Schema.name_of_position? position)
        exact differs (Option.some.inj same)
      simp [read, put, List.getElem?_set_ne apart]

/-- Nothing but the values of fields is different. -/
structure Resembles (record changed : Record) : Prop where
  entity : changed.entity = record.entity
  schema : changed.schema = record.schema
  id : changed.id = record.id

theorem Resembles.trans {record changed last : Record} (first : record.Resembles changed)
    (second : changed.Resembles last) : record.Resembles last :=
  ⟨second.entity.trans first.entity, second.schema.trans first.schema, second.id.trans first.id⟩

theorem set_resembles {record changed : Record} {name : String} {value : Value}
    (done : record.set name value = .ok changed) : record.Resembles changed := by
  rw [set] at done
  split at done
  · cases done
  · split at done
    · obtain rfl := Except.ok.inj done
      exact ⟨rfl, rfl, rfl⟩
    · cases done

theorem foldlM_set_ok (entries : List (String × Value)) (record : Record)
    (known : ∀ entry ∈ entries, record.schema.knows entry.1 = true)
    (free : ∀ entry ∈ entries, entry.1 ≠ record.schema.idColumn) :
    ∃ changed, entries.foldlM (fun record entry => record.set entry.1 entry.2) record = .ok changed ∧
      record.Resembles changed := by
  induction entries generalizing record with
  | nil => exact ⟨record, rfl, ⟨rfl, rfl, rfl⟩⟩
  | cons entry rest ih =>
      have here := List.mem_cons_self (a := entry) (l := rest)
      obtain ⟨index, position⟩ := Schema.position?_of_knows (known entry here) (free entry here)
      have set := set_eq_put (free entry here) position entry.2
      obtain ⟨changed, there, resembles⟩ := ih (record.put index entry.2)
        (fun other member => known other (List.mem_cons_of_mem entry member))
        (fun other member => free other (List.mem_cons_of_mem entry member))
      refine ⟨changed, ?_, (set_resembles set).trans resembles⟩
      rw [List.foldlM_cons, set]
      exact there

theorem setFields_eq_foldlM {record : Record} {values : Values}
    (known : record.schema.checkFields values.keys = .ok ())
    (free : record.schema.idColumn ∉ values.keys) :
    record.setFields values =
      values.entries.foldlM (fun record entry => record.set entry.1 entry.2) record := by
  have absent : values.contains record.schema.idColumn = false := by
    simpa [OrderedMap.contains] using free
  rw [setFields, known, absent]
  rfl

theorem setFields_ok {record : Record} {values : Values}
    (known : record.schema.checkFields values.keys = .ok ())
    (free : record.schema.idColumn ∉ values.keys) :
    ∃ changed, record.setFields values = .ok changed ∧ record.Resembles changed := by
  rw [setFields_eq_foldlM known free]
  refine foldlM_set_ok values.entries record ?_ ?_
  · intro entry member
    exact Schema.checkFields_eq_ok_iff.mp known entry.1 (List.mem_map_of_mem member)
  · rintro entry member identifier
    exact free (identifier ▸ List.mem_map_of_mem member)

/-! ## What a new record holds -/

/-- The record that holds the given values, and `NULL` in every other field. -/
def ofValues (entity : String) (schema : Schema) (id : Value) (values : Values) : Record where
  entity := entity
  schema := schema
  id := id
  values := schema.fields.map fun field => (values.get? field.name).getD .null

/-- Where the names of the fields are distinct, the value at a position is that of one field. -/
theorem set_map_position {schema : Schema} (wellFormed : schema.WellFormed) {name : String}
    {index : Nat} (position : schema.position? name = some index) (value : Value)
    (held : Field → Value) :
    (schema.fields.map held).set index value =
      schema.fields.map fun field => if field.name = name then value else held field := by
  have named := Schema.name_of_position? position
  obtain ⟨own, there, rfl⟩ := Option.map_eq_some_iff.mp named
  refine List.ext_getElem? fun place => ?_
  rw [List.getElem?_set, List.getElem?_map, List.getElem?_map]
  cases found : schema.fields[place]? with
  | none =>
      have apart : index ≠ place := by
        rintro rfl
        rw [there] at found
        cases found
      rw [if_neg apart]
      rfl
  | some field =>
      by_cases same : index = place
      · subst same
        obtain rfl : own = field := Option.some.inj (there.symm.trans found)
        simp [(List.getElem?_eq_some_iff.mp there).1]
      · have differs : field.name ≠ own.name := by
          intro equal
          have both := wellFormed.eq_of_name (List.mem_of_getElem? found) (List.mem_of_getElem? there)
            equal
          rw [both, ← there] at found
          exact same ((List.getElem?_inj (List.getElem?_eq_some_iff.mp there).1
            (List.Nodup.of_map _ wellFormed.distinct)).mp found.symm)
        rw [if_neg same]
        simp [differs]

theorem foldlM_set_map {schema : Schema} (wellFormed : schema.WellFormed) (entity : String)
    (id : Value) (entries : List (String × Value)) (distinct : (entries.map Prod.fst).Nodup)
    (known : ∀ entry ∈ entries, schema.knows entry.1 = true)
    (free : ∀ entry ∈ entries, entry.1 ≠ schema.idColumn) (held : Field → Value) :
    entries.foldlM (fun record entry => record.set entry.1 entry.2)
        ({ entity, schema, id, values := schema.fields.map held } : Record) =
      .ok { entity, schema, id
            values := schema.fields.map fun field =>
              (entries.lookup field.name).getD (held field) } := by
  induction entries generalizing held with
  | nil => rfl
  | cons entry rest ih =>
      obtain ⟨name, value⟩ := entry
      rw [List.map_cons, List.nodup_cons] at distinct
      have here := List.mem_cons_self (a := (name, value)) (l := rest)
      obtain ⟨index, position⟩ := Schema.position?_of_knows (known _ here) (free _ here)
      have set : set { entity, schema, id, values := schema.fields.map held } name value = .ok
          { entity, schema, id
            values := schema.fields.map fun field =>
              if field.name = name then value else held field } := by
        rw [← set_map_position wellFormed position value held]
        exact set_eq_put (free _ here) position value
      rw [List.foldlM_cons, set]
      refine (ih distinct.2 (fun other member => known other (List.mem_cons_of_mem _ member))
        (fun other member => free other (List.mem_cons_of_mem _ member)) _).trans ?_
      refine congrArg Except.ok (congrArg (Record.mk entity schema id)
        (List.map_congr_left fun field _ => ?_))
      rw [List.lookup_cons]
      by_cases same : field.name = name
      · have later : rest.lookup field.name = none := by
          rw [List.lookup_eq_none_iff]
          intro other member
          rw [bne_iff_ne, same]
          intro equal
          exact distinct.1 (List.mem_map.mpr ⟨other, member, equal.symm⟩)
        rw [later]
        simp [same]
      · have other : (field.name == name) = false := beq_eq_false_iff_ne.mpr same
        rw [other, if_neg same]

/-- A blank record that is given values holds these, and `NULL` in every other field. -/
theorem setFields_blank {schema : Schema} (wellFormed : schema.WellFormed) (entity : String)
    (id : Value) {values : Values} (known : schema.checkFields values.keys = .ok ())
    (free : schema.idColumn ∉ values.keys) :
    (blank entity schema id).setFields values = .ok (ofValues entity schema id values) := by
  have empty : blank entity schema id =
      { entity, schema, id, values := schema.fields.map fun _ => .null } := by
    rw [blank, List.map_const']
  have each : (blank entity schema id).setFields values = _ := setFields_eq_foldlM known free
  rw [each, empty]
  refine foldlM_set_map wellFormed entity id values.entries values.nodup_keys ?_ ?_ _
  · intro entry member
    exact Schema.checkFields_eq_ok_iff.mp known entry.1 (List.mem_map_of_mem member)
  · rintro entry member identifier
    exact free (identifier ▸ List.mem_map_of_mem member)

end Record

end RecordMapper
