import Mathlib.Data.List.Nodup
import RecordMapper.Record
/-! # What a valid declaration comes to

The fields of a schema have distinct names other than the identifier's, and its table has a name
(`Declaration.wellFormed_schema`).  By its name a field is found in the schema, and its value in a
record. -/
set_option autoImplicit false
namespace RecordMapper

theorem ok_of_bind_ok {ε α β : Type} {first : Except ε α} {next : α → Except ε β} {b : β}
    (done : first >>= next = .ok b) : ∃ a, first = .ok a ∧ next a = .ok b := by
  cases first with
  | error fault => cases done
  | ok a => exact ⟨a, rfl, done⟩

theorem error_of_bind_error {ε α β : Type} {first : Except ε α} {next : α → Except ε β} {fault : ε}
    (failed : first >>= next = .error fault) :
    first = .error fault ∨ ∃ a, first = .ok a ∧ next a = .error fault := by
  cases first with
  | error other =>
      obtain rfl : other = fault := Except.error.inj failed
      exact .inl rfl
  | ok a => exact .inr ⟨a, rfl, failed⟩

theorem mapM_ok {ε α β : Type} (f : α → Except ε β) (R : α → β → Prop) (l : List α)
    (each : ∀ a ∈ l, ∃ b, f a = .ok b ∧ R a b) :
    ∃ bs, l.mapM f = .ok bs ∧ List.Forall₂ R l bs := by
  induction l with
  | nil => exact ⟨[], rfl, .nil⟩
  | cons a rest ih =>
      obtain ⟨b, here, related⟩ := each a (List.mem_cons_self ..)
      obtain ⟨bs, there, others⟩ := ih fun other member => each other (List.mem_cons_of_mem a member)
      refine ⟨b :: bs, ?_, .cons related others⟩
      rw [List.mapM_cons, here, there]
      rfl

theorem mapM_eq_ok_iff {ε α β : Type} {f : α → Except ε β} {l : List α} {bs : List β} :
    l.mapM f = .ok bs ↔ List.Forall₂ (fun a b => f a = .ok b) l bs := by
  constructor
  · intro all
    induction l generalizing bs with
    | nil =>
        obtain rfl : [] = bs := Except.ok.inj all
        exact .nil
    | cons a rest ih =>
        rw [List.mapM_cons] at all
        obtain ⟨b, here, all⟩ := ok_of_bind_ok all
        obtain ⟨others, there, all⟩ := ok_of_bind_ok all
        obtain rfl : b :: others = bs := Except.ok.inj all
        exact .cons here (ih there)
  · intro each
    induction each with
    | nil => rfl
    | cons here _ ih =>
        rw [List.mapM_cons, here, ih]
        rfl

theorem mapM_eq_error_iff {ε α β : Type} {f : α → Except ε β} {l : List α} {fault : ε} :
    l.mapM f = .error fault ↔ ∃ front a back, l = front ++ a :: back ∧
      (∀ earlier ∈ front, ∃ b, f earlier = .ok b) ∧ f a = .error fault := by
  induction l with
  | nil =>
      constructor
      · intro failed
        cases failed
      · rintro ⟨front, a, back, shape, -⟩
        simp at shape
  | cons first rest ih =>
      rw [List.mapM_cons]
      constructor
      · intro failed
        cases here : f first with
        | error cause =>
            rw [here] at failed
            obtain rfl : cause = fault := Except.error.inj failed
            exact ⟨[], first, rest, rfl, by simp, here⟩
        | ok b =>
            have later : rest.mapM f = .error fault := by
              rw [here] at failed
              cases others : rest.mapM f with
              | error cause =>
                  rw [others] at failed
                  exact failed
              | ok bs =>
                  rw [others] at failed
                  cases failed
            obtain ⟨front, a, back, rfl, fine, there⟩ := ih.mp later
            refine ⟨first :: front, a, back, rfl, fun earlier member => ?_, there⟩
            rcases List.mem_cons.mp member with rfl | member
            · exact ⟨b, here⟩
            · exact fine earlier member
      · rintro ⟨front, a, back, shape, fine, there⟩
        cases front with
        | nil =>
            obtain ⟨rfl, rfl⟩ := List.cons.inj shape
            rw [there]
            rfl
        | cons other front =>
            obtain ⟨rfl, rfl⟩ := List.cons.inj shape
            obtain ⟨b, here⟩ := fine first (List.mem_cons_self ..)
            have later := ih.mpr ⟨front, a, back, rfl,
              fun earlier member => fine earlier (List.mem_cons_of_mem _ member), there⟩
            rw [here, later]
            rfl

theorem exists_of_forall₂ {α β : Type} {R : α → β → Prop} {l : List α} {bs : List β}
    (related : List.Forall₂ R l bs) {a : α} (member : a ∈ l) : ∃ b ∈ bs, R a b := by
  induction related with
  | nil => cases member
  | cons here _ ih =>
      rcases List.mem_cons.mp member with rfl | later
      · exact ⟨_, List.mem_cons_self .., here⟩
      · obtain ⟨b, there, related⟩ := ih later
        exact ⟨b, List.mem_cons_of_mem _ there, related⟩

theorem getElem?_of_forall₂ {α β : Type} {R : α → β → Prop} {as : List α} {bs : List β}
    (related : List.Forall₂ R as bs) {index : Nat} {a : α} (found : as[index]? = some a) :
    ∃ b, bs[index]? = some b ∧ R a b := by
  induction related generalizing index with
  | nil => cases found
  | cons here _ ih =>
      cases index with
      | zero =>
          obtain rfl := Option.some.inj found
          exact ⟨_, rfl, here⟩
      | succ index => exact ih found

structure Schema.WellFormed (schema : Schema) : Prop where
  named : schema.table ≠ ""
  distinct : (schema.fields.map Field.name).Nodup
  apart : ∀ field ∈ schema.fields, field.name ≠ schema.idColumn

namespace Declaration

/-- Fields are checked against the names before them, so that none comes twice. -/
theorem fieldsAfter_spec (declaration : Declaration) (entries : List (String × Option String))
    (seen : List String) (fields : List Field)
    (declared : declaration.fieldsAfter seen entries = .ok fields) :
    (fields.map Field.name).Nodup ∧
      ∀ field ∈ fields, field.name ≠ declaration.idColumn ∧ field.name ∉ seen := by
  induction entries generalizing seen fields with
  | nil =>
      obtain rfl : [] = fields := Except.ok.inj declared
      exact ⟨List.nodup_nil, by simp⟩
  | cons entry rest ih =>
      obtain ⟨name, tag⟩ := entry
      rw [fieldsAfter] at declared
      by_cases identifier : name = declaration.idColumn
      · rw [if_pos identifier] at declared
        cases declared
      by_cases again : seen.contains name = true
      · rw [if_neg identifier, if_pos again] at declared
        cases declared
      rw [if_neg identifier, if_neg again] at declared
      obtain ⟨kind, -, declared⟩ := ok_of_bind_ok declared
      obtain ⟨others, later, declared⟩ := ok_of_bind_ok declared
      obtain rfl : ⟨name, kind, name⟩ :: others = fields := Except.ok.inj declared
      obtain ⟨distinct, free⟩ := ih (name :: seen) others later
      refine ⟨?_, ?_⟩
      · rw [List.map_cons, List.nodup_cons]
        refine ⟨fun member => ?_, distinct⟩
        obtain ⟨field, fieldMember, same⟩ := List.mem_map.mp member
        exact (free field fieldMember).2 (same ▸ List.mem_cons_self ..)
      · intro field member
        rcases List.mem_cons.mp member with rfl | member
        · refine ⟨identifier, fun old => again ?_⟩
          simpa using old
        · obtain ⟨notId, notSeen⟩ := free field member
          exact ⟨notId, fun old => notSeen (List.mem_cons_of_mem _ old)⟩

theorem names_renameField (name column : String) (fields : List Field) :
    (renameField name column fields).map Field.name = fields.map Field.name := by
  rw [renameField, List.map_map]
  refine List.map_congr_left fun field _ => ?_
  show (if field.name = name then { field with column := column } else field).name = field.name
  split <;> rfl

theorem names_applyRenames (table : String) (renames : List (String × String))
    (declared fields : List Field) (renamed : applyRenames table declared renames = .ok fields) :
    fields.map Field.name = declared.map Field.name := by
  induction renames generalizing declared with
  | nil =>
      obtain rfl : declared = fields := Except.ok.inj renamed
      rfl
  | cons rename rest ih =>
      obtain ⟨name, column⟩ := rename
      rw [applyRenames] at renamed
      split at renamed
      · exact (ih _ renamed).trans (names_renameField name column declared)
      · cases renamed

/-- The checks that a valid declaration has passed. -/
structure Passed (declaration : Declaration) (schema : Schema) (declared : List Field) : Prop where
  named : (Text.trim declaration.table).isEmpty = false
  distinct : declaration.fieldsAfter [] declaration.fields = .ok declared
  renamed : applyRenames declaration.table declared declaration.renames = .ok schema.fields
  deletion : checkDeletion declaration.table schema.fields schema.deletion = .ok ()
  table : schema.table = declaration.table
  idColumn : schema.idColumn = declaration.idColumn

theorem passed_of_schema {declaration : Declaration} {schema : Schema}
    (valid : declaration.schema = .ok schema) : ∃ declared, declaration.Passed schema declared := by
  rw [Declaration.schema] at valid
  by_cases blank : (Text.trim declaration.table).isEmpty = true
  · rw [if_pos blank] at valid
    cases valid
  rw [if_neg blank] at valid
  obtain ⟨declared, checked, valid⟩ := ok_of_bind_ok valid
  obtain ⟨fields, renamed, valid⟩ := ok_of_bind_ok valid
  obtain ⟨-, -, valid⟩ := ok_of_bind_ok valid
  obtain ⟨_, flagged, valid⟩ := ok_of_bind_ok valid
  obtain rfl := Except.ok.inj valid
  exact ⟨declared, Bool.eq_false_iff.mpr blank, checked, renamed, flagged, rfl, rfl⟩

theorem wellFormed_schema (declaration : Declaration) {schema : Schema}
    (valid : declaration.schema = .ok schema) : schema.WellFormed := by
  obtain ⟨declared, passed⟩ := passed_of_schema valid
  obtain ⟨distinct, free⟩ := declaration.fieldsAfter_spec _ _ _ passed.distinct
  have names := names_applyRenames _ _ _ _ passed.renamed
  constructor
  · intro empty
    have blank := passed.named
    rw [← passed.table, empty] at blank
    exact absurd blank (by decide)
  · exact names ▸ distinct
  · intro field member
    obtain ⟨original, originalMember, same⟩ :
        ∃ original ∈ declared, original.name = field.name := by
      have name := List.mem_map_of_mem (f := Field.name) member
      rw [names] at name
      exact List.mem_map.mp name
    rw [← same, passed.idColumn]
    exact (free original originalMember).1

/-- What is saved by default was checked against the fields. -/
theorem saveFields_of_schema {declaration : Declaration} {schema : Schema}
    (valid : declaration.schema = .ok schema) :
    ∀ name ∈ schema.saveFields, ∃ field ∈ schema.fields, field.name = name := by
  rw [Declaration.schema] at valid
  split at valid
  · cases valid
  obtain ⟨declared, -, valid⟩ := ok_of_bind_ok valid
  obtain ⟨fields, -, valid⟩ := ok_of_bind_ok valid
  obtain ⟨_, checked, valid⟩ := ok_of_bind_ok valid
  obtain ⟨-, -, valid⟩ := ok_of_bind_ok valid
  obtain rfl := Except.ok.inj valid
  intro name member
  rw [checkDeclared] at checked
  split at checked
  · cases checked
  · next none =>
      have known := List.find?_eq_none.mp none name (List.mem_append_left _ member)
      simpa using known

theorem bool_of_checkDeletion {table flag : String} {fields : List Field}
    (checked : checkDeletion table fields (.soft flag) = .ok ()) :
    ∃ field ∈ fields, field.name = flag ∧ field.kind = .bool := by
  rw [checkDeletion] at checked
  cases found : fields.find? fun field => field.name = flag with
  | none =>
      rw [found] at checked
      cases checked
  | some field =>
      rw [found] at checked
      by_cases bool : field.kind = .bool
      · exact ⟨field, List.mem_of_find?_eq_some found, by simpa using List.find?_some found, bool⟩
      · dsimp only at checked
        rw [if_neg bool] at checked
        cases checked

end Declaration

namespace Schema

theorem field?_some {schema : Schema} {name : String} {field : Field}
    (found : schema.field? name = some field) : field ∈ schema.fields ∧ field.name = name :=
  ⟨List.mem_of_find?_eq_some found, by simpa using List.find?_some found⟩

theorem column_of_field? {schema : Schema} {name : String} {field : Field}
    (found : schema.field? name = some field) : schema.column name = field.column := by
  rw [column, found]
  rfl

theorem WellFormed.eq_of_name {schema : Schema} (wellFormed : schema.WellFormed)
    {field other : Field} (member : field ∈ schema.fields) (otherMember : other ∈ schema.fields)
    (same : field.name = other.name) : field = other :=
  List.inj_on_of_nodup_map wellFormed.distinct member otherMember same

theorem WellFormed.field?_name {schema : Schema} (wellFormed : schema.WellFormed) {field : Field}
    (member : field ∈ schema.fields) : schema.field? field.name = some field := by
  cases found : schema.field? field.name with
  | none =>
      have absent := List.find?_eq_none.mp found field member
      simp at absent
  | some other =>
      obtain ⟨otherMember, same⟩ := field?_some found
      rw [wellFormed.eq_of_name member otherMember same.symm]

/-- The identifier is known, but no field has its name. -/
theorem WellFormed.knows_iff {schema : Schema} (wellFormed : schema.WellFormed) {name : String} :
    schema.knows name = true ∧ name ≠ schema.idColumn ↔ ∃ field, schema.field? name = some field := by
  rw [knows, Bool.or_eq_true, beq_iff_eq, Option.isSome_iff_exists]
  constructor
  · rintro ⟨known, free⟩
    exact known.resolve_left free
  · rintro ⟨field, found⟩
    obtain ⟨member, rfl⟩ := field?_some found
    exact ⟨.inr ⟨field, found⟩, wellFormed.apart field member⟩

theorem WellFormed.position?_name {schema : Schema} (wellFormed : schema.WellFormed)
    {field : Field} (member : field ∈ schema.fields) :
    ∃ index, schema.position? field.name = some index ∧ schema.fields[index]? = some field := by
  have found := List.findIdx?_eq_some_of_exists
    (p := fun other : Field => decide (other.name = field.name)) ⟨field, member, by simp⟩
  obtain ⟨inside, named, -⟩ := List.findIdx?_eq_some_iff_getElem.mp found
  refine ⟨_, found, ?_⟩
  rw [List.getElem?_eq_getElem inside]
  have same := of_decide_eq_true named
  rw [wellFormed.eq_of_name (List.getElem_mem inside) member same]

end Schema

end RecordMapper
