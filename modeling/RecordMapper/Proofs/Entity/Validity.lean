import Mathlib.Data.List.Duplicate
import RecordMapper.Proofs.Entity.Schema
import RecordMapper.Proofs.Text.Blank
import RecordMapper.Store.Session
/-! # Which declarations are valid

`Declaration.Valid` says what a declaration has to be, each list of it by itself, and
`Declaration.described` what it then describes.  The checks accept just the valid declarations, and the
schema is the one described (`Declaration.schema_valid_iff`); what is refused is refused for a flaw that
it has (`Declaration.Flaw`). -/
set_option autoImplicit false
namespace RecordMapper

def Kind.tags : List (String × Kind) :=
  [("int", .int), ("float", .float), ("bool", .bool), ("string", .string), ("timestamp", .timestamp),
    ("datetime", .timestamp), ("structured", .structured), ("json", .structured)]

theorem Kind.ofTag?_eq_lookup (tag : String) : ofTag? tag = tags.lookup tag := by
  simp only [ofTag?, tags, List.lookup_cons, List.lookup_nil, Bool.or_eq_true, decide_eq_true_eq]
  repeat' split
  all_goals simp_all

theorem Kind.lookup_tags_eq_none_iff {tag : String} :
    tags.lookup tag = none ↔ tag ∉ tags.map Prod.fst := by
  rw [List.lookup_eq_none_iff, List.mem_map, not_exists]
  constructor
  · rintro unknown entry ⟨member, rfl⟩
    exact bne_iff_ne.mp (unknown entry member) rfl
  · intro unknown entry member
    exact bne_iff_ne.mpr fun same => unknown entry ⟨member, same.symm⟩

def Kind.declared? : Option String → Option Kind
  | none => some .string
  | some tag => tags.lookup tag

theorem Kind.mem_tags_iff {tag : String} :
    tag ∈ tags.map Prod.fst ↔ ∃ kind, declared? (some tag) = some kind := by
  rw [declared?, ← Option.ne_none_iff_exists', Ne, lookup_tags_eq_none_iff, not_not]

namespace Declaration
variable {declaration : Declaration}

def names (declaration : Declaration) : List String := declaration.fields.map Prod.fst

/-- Each list of the declaration is as it has to be, whatever order they are checked in. -/
structure Valid (declaration : Declaration) : Prop where
  named : ∃ c ∈ declaration.table.toList, Text.isBlank c = false
  distinct : declaration.names.Nodup
  apart : declaration.idColumn ∉ declaration.names
  tagged : ∀ name tag, (name, some tag) ∈ declaration.fields → tag ∈ Kind.tags.map Prod.fst
  renamed : ∀ rename ∈ declaration.renames, rename.1 ∈ declaration.names
  saved : ∀ names, declaration.saveFields = some names → ∀ name ∈ names, name ∈ declaration.names
  grouped : ∀ name ∈ declaration.groupBy, name ∈ declaration.names
  flagged : ∀ flag, declaration.deletion = .soft flag →
    ∃ tag, (flag, tag) ∈ declaration.fields ∧ Kind.declared? tag = some .bool

/-- The column of a name: the last one that it was renamed to, or else one of its own name. -/
def columnOf (declaration : Declaration) (name : String) : String :=
  (declaration.renames.reverse.lookup name).getD name

def described (declaration : Declaration) : Schema where
  table := declaration.table
  idColumn := declaration.idColumn
  fields := declaration.fields.map fun entry =>
    ⟨entry.1, (Kind.declared? entry.2).getD .string, declaration.columnOf entry.1⟩
  saveFields := declaration.saveFields.getD declaration.names
  groupBy := declaration.groupBy
  deletion := declaration.deletion

/-- What a declaration may be refused for, and why that is wrong with it. -/
inductive Flaw (declaration : Declaration) : Misuse → Prop
  | table (blank : ∀ c ∈ declaration.table.toList, Text.isBlank c = true) :
      Flaw declaration .emptyTable
  | identifier (declared : declaration.idColumn ∈ declaration.names) :
      Flaw declaration (.declaredIdentifier declaration.table declaration.idColumn)
  | twice (name : String) (again : List.Duplicate name declaration.names) :
      Flaw declaration (.declaredTwice declaration.table name)
  | tag (name tag : String) (declared : (name, some tag) ∈ declaration.fields)
      (unknown : tag ∉ Kind.tags.map Prod.fst) :
      Flaw declaration (.unknownFieldKind declaration.table name tag)
  | rename (name column : String) (renamed : (name, column) ∈ declaration.renames)
      (unknown : name ∉ declaration.names) : Flaw declaration (.renamedUnknown declaration.table name)
  | listed (name : String)
      (listed : (∃ names, declaration.saveFields = some names ∧ name ∈ names) ∨
        name ∈ declaration.groupBy)
      (unknown : name ∉ declaration.names) : Flaw declaration (.unknownField declaration.table name)
  | flagUnknown (flag : String) (soft : declaration.deletion = .soft flag)
      (unknown : flag ∉ declaration.names) : Flaw declaration (.flagUnknown declaration.table flag)
  | flagNotBool (flag : String) (tag : Option String) (soft : declaration.deletion = .soft flag)
      (declared : (flag, tag) ∈ declaration.fields) (other : Kind.declared? tag ≠ some .bool) :
      Flaw declaration (.flagNotBool declaration.table flag)

/-! ## Kinds and fields -/

theorem kindOf_eq_ok_iff {table name : String} {tag : Option String} {kind : Kind} :
    kindOf table name tag = .ok kind ↔ Kind.declared? tag = some kind := by
  cases tag with
  | none => exact ⟨fun known => congrArg some (Except.ok.inj known),
      fun known => congrArg Except.ok (Option.some.inj known)⟩
  | some tag =>
      rw [kindOf, Kind.ofTag?_eq_lookup, Kind.declared?]
      cases Kind.tags.lookup tag <;> simp

theorem kindOf_eq_error {table name : String} {tag : Option String} {cause : Misuse}
    (refused : kindOf table name tag = .error cause) :
    ∃ unknown, tag = some unknown ∧ unknown ∉ Kind.tags.map Prod.fst ∧
      cause = .unknownFieldKind table name unknown := by
  cases tag with
  | none => cases refused
  | some tag =>
      rw [kindOf, Kind.ofTag?_eq_lookup] at refused
      cases found : Kind.tags.lookup tag with
      | some kind =>
          rw [found] at refused
          cases refused
      | none =>
          rw [found] at refused
          exact ⟨tag, rfl, Kind.lookup_tags_eq_none_iff.mp found, (Except.error.inj refused).symm⟩

def plainField (entry : String × Option String) : Field :=
  ⟨entry.1, (Kind.declared? entry.2).getD .string, entry.1⟩

theorem fields_of_fieldsAfter {entries : List (String × Option String)} {seen : List String}
    {fields : List Field} (declared : declaration.fieldsAfter seen entries = .ok fields) :
    fields = entries.map plainField ∧
      ∀ name tag, (name, some tag) ∈ entries → tag ∈ Kind.tags.map Prod.fst := by
  induction entries generalizing seen fields with
  | nil =>
      obtain rfl : [] = fields := Except.ok.inj declared
      exact ⟨rfl, by simp⟩
  | cons entry rest ih =>
      obtain ⟨name, tag⟩ := entry
      rw [fieldsAfter] at declared
      split at declared
      · cases declared
      split at declared
      · cases declared
      obtain ⟨kind, known, declared⟩ := ok_of_bind_ok declared
      obtain ⟨others, later, declared⟩ := ok_of_bind_ok declared
      obtain rfl : ⟨name, kind, name⟩ :: others = fields := Except.ok.inj declared
      obtain ⟨rfl, tagged⟩ := ih later
      rw [kindOf_eq_ok_iff] at known
      refine ⟨?_, fun other given member => ?_⟩
      · rw [List.map_cons, plainField, known]
        rfl
      · rcases List.mem_cons.mp member with here | member
        · obtain ⟨rfl, rfl⟩ := Prod.mk.inj here
          exact Kind.mem_tags_iff.mpr ⟨kind, known⟩
        · exact tagged other given member

theorem flaw_of_fieldsAfter {entries : List (String × Option String)} {seen : List String}
    {cause : Misuse} (refused : declaration.fieldsAfter seen entries = .error cause) :
    (declaration.idColumn ∈ entries.map Prod.fst ∧
        cause = .declaredIdentifier declaration.table declaration.idColumn) ∨
      (∃ name, (List.Duplicate name (entries.map Prod.fst) ∨
          name ∈ seen ∧ name ∈ entries.map Prod.fst) ∧
        cause = .declaredTwice declaration.table name) ∨
      ∃ name tag, (name, some tag) ∈ entries ∧ tag ∉ Kind.tags.map Prod.fst ∧
        cause = .unknownFieldKind declaration.table name tag := by
  induction entries generalizing seen with
  | nil => cases refused
  | cons entry rest ih =>
      obtain ⟨name, tag⟩ := entry
      have first : name ∈ ((name, tag) :: rest).map Prod.fst := List.mem_cons_self ..
      rw [fieldsAfter] at refused
      split at refused
      · next identifier =>
        refine .inl ⟨identifier ▸ first, ?_⟩
        rw [← identifier]
        exact (Except.error.inj refused).symm
      split at refused
      · next again =>
        refine .inr (.inl ⟨name, .inr ⟨by simpa using again, first⟩, (Except.error.inj refused).symm⟩)
      cases known : kindOf declaration.table name tag with
      | error other =>
          rw [known] at refused
          obtain ⟨unknown, rfl, foreign, rfl⟩ := kindOf_eq_error known
          exact .inr (.inr ⟨name, unknown, List.mem_cons_self .., foreign,
            (Except.error.inj refused).symm⟩)
      | ok kind =>
          rw [known] at refused
          cases later : declaration.fieldsAfter (name :: seen) rest with
          | ok others =>
              rw [later] at refused
              cases refused
          | error other =>
              rw [later] at refused
              obtain rfl : other = cause := Except.error.inj refused
              obtain ⟨member, rfl⟩ | ⟨twice, again, rfl⟩ | ⟨other, unknown, member, foreign, rfl⟩ :=
                ih later
              · exact .inl ⟨List.mem_cons_of_mem _ member, rfl⟩
              · refine .inr (.inl ⟨twice, ?_, rfl⟩)
                obtain duplicate | ⟨old, member⟩ := again
                · exact .inl (duplicate.duplicate_cons name)
                · rcases List.mem_cons.mp old with rfl | old
                  · exact .inl (List.Mem.duplicate_cons_self member)
                  · exact .inr ⟨old, List.mem_cons_of_mem _ member⟩
              · exact .inr (.inr ⟨other, unknown, List.mem_cons_of_mem _ member, foreign, rfl⟩)

/-! ## Renames -/

def renamedField (renames : List (String × String)) (field : Field) : Field :=
  { field with column := (renames.reverse.lookup field.name).getD field.column }

theorem renamedField_cons (name column : String) (rest : List (String × String)) (field : Field) :
    renamedField ((name, column) :: rest) field =
      renamedField rest (if field.name = name then { field with column := column } else field) := by
  unfold renamedField
  rw [List.reverse_cons, List.lookup_append]
  by_cases same : field.name = name
  · simp only [if_pos same]
    cases rest.reverse.lookup field.name <;> simp [same]
  · have other : (field.name == name) = false := beq_eq_false_iff_ne.mpr same
    simp only [if_neg same, List.lookup_cons, List.lookup_nil, other]
    cases rest.reverse.lookup field.name <;> rfl

theorem fields_of_applyRenames {table : String} {renames : List (String × String)}
    {fields renamed : List Field} (done : applyRenames table fields renames = .ok renamed) :
    renamed = fields.map (renamedField renames) ∧
      ∀ rename ∈ renames, rename.1 ∈ fields.map Field.name := by
  induction renames generalizing fields with
  | nil =>
      obtain rfl : fields = renamed := Except.ok.inj done
      exact ⟨(List.map_id'' (fun _ => rfl) fields).symm, by simp⟩
  | cons rename rest ih =>
      obtain ⟨name, column⟩ := rename
      rw [applyRenames] at done
      split at done
      · next known =>
        obtain ⟨rfl, others⟩ := ih done
        rw [names_renameField] at others
        refine ⟨?_, List.forall_mem_cons.mpr ⟨by simpa using known, others⟩⟩
        rw [renameField, List.map_map]
        exact List.map_congr_left fun field _ => (renamedField_cons name column rest field).symm
      · cases done

theorem flaw_of_applyRenames {table : String} {renames : List (String × String)} {fields : List Field}
    {cause : Misuse} (refused : applyRenames table fields renames = .error cause) :
    ∃ name column, (name, column) ∈ renames ∧ name ∉ fields.map Field.name ∧
      cause = .renamedUnknown table name := by
  induction renames generalizing fields with
  | nil => cases refused
  | cons rename rest ih =>
      obtain ⟨name, column⟩ := rename
      rw [applyRenames] at refused
      split at refused
      · obtain ⟨other, target, member, unknown, rfl⟩ := ih refused
        rw [names_renameField] at unknown
        exact ⟨other, target, List.mem_cons_of_mem _ member, unknown, rfl⟩
      · next unknown =>
        refine ⟨name, column, List.mem_cons_self .., ?_, (Except.error.inj refused).symm⟩
        simpa using unknown

/-! ## Names that have to be declared -/

theorem checkDeclared_eq_ok {table : String} {fields : List Field} {names : List String}
    (checked : checkDeclared table fields names = .ok ()) : ∀ name ∈ names, name ∈ fields.map Field.name := by
  rw [checkDeclared] at checked
  split at checked
  · cases checked
  · next none => simpa using none

theorem flaw_of_checkDeclared {table : String} {fields : List Field} {names : List String}
    {cause : Misuse} (refused : checkDeclared table fields names = .error cause) :
    ∃ name ∈ names, name ∉ fields.map Field.name ∧ cause = .unknownField table name := by
  rw [checkDeclared] at refused
  split at refused
  · next name found =>
    refine ⟨name, List.mem_of_find?_eq_some found, ?_, (Except.error.inj refused).symm⟩
    simpa using List.find?_some found
  · cases refused

theorem flaw_of_checkDeletion {table : String} {fields : List Field} {deletion : Deletion}
    {cause : Misuse} (refused : checkDeletion table fields deletion = .error cause) :
    ∃ flag, deletion = .soft flag ∧
      ((flag ∉ fields.map Field.name ∧ cause = .flagUnknown table flag) ∨
        ∃ field ∈ fields, field.name = flag ∧ field.kind ≠ .bool ∧ cause = .flagNotBool table flag) := by
  cases deletion with
  | hard => cases refused
  | soft flag =>
      refine ⟨flag, rfl, ?_⟩
      rw [checkDeletion] at refused
      split at refused
      · next none => exact .inl ⟨by simpa using none, (Except.error.inj refused).symm⟩
      · next field found =>
        split at refused
        · cases refused
        · next other =>
          have named : field.name = flag := by simpa using List.find?_some found
          exact .inr ⟨field, List.mem_of_find?_eq_some found, named, other,
            (Except.error.inj refused).symm⟩

/-! ## The whole declaration -/

theorem isEmpty_trim_iff {s : String} :
    (Text.trim s).isEmpty = true ↔ ∀ c ∈ s.toList, Text.isBlank c = true := by
  rw [Text.trim, String.isEmpty_iff, ← Text.trimChars_eq_nil_iff]
  simp

theorem exists_of_mem_described {field : Field} (member : field ∈ declaration.described.fields) :
    ∃ tag, (field.name, tag) ∈ declaration.fields ∧
      field.kind = (Kind.declared? tag).getD .string ∧ field.column = declaration.columnOf field.name := by
  obtain ⟨⟨name, tag⟩, listed, rfl⟩ := List.mem_map.mp member
  exact ⟨tag, listed, rfl, rfl⟩

/-- What is wrong with a declaration is wrong with one of its parts. -/
theorem Flaw.not_valid {cause : Misuse} (flaw : declaration.Flaw cause) : ¬ declaration.Valid := by
  intro valid
  cases flaw with
  | table blank =>
      obtain ⟨c, member, shown⟩ := valid.named
      rw [blank c member] at shown
      cases shown
  | identifier declared => exact valid.apart declared
  | twice name again => exact (List.exists_duplicate_iff_not_nodup.mp ⟨name, again⟩) valid.distinct
  | tag name tag declared unknown => exact unknown (valid.tagged name tag declared)
  | rename name column renamed unknown => exact unknown (valid.renamed _ renamed)
  | listed name listed unknown =>
      rcases listed with ⟨names, declared, member⟩ | member
      · exact unknown (valid.saved names declared name member)
      · exact unknown (valid.grouped name member)
  | flagUnknown flag soft unknown =>
      obtain ⟨tag, declared, -⟩ := valid.flagged flag soft
      exact unknown (List.mem_map_of_mem (f := Prod.fst) declared)
  | flagNotBool flag tag soft declared other =>
      obtain ⟨given, named, bool⟩ := valid.flagged flag soft
      have same : (flag, tag) = (flag, given) :=
        List.inj_on_of_nodup_map valid.distinct declared named rfl
      rw [(Prod.mk.inj same).2] at other
      exact other bool

theorem map_renamedField_plainField :
    (declaration.fields.map plainField).map (renamedField declaration.renames) =
      declaration.described.fields := by
  rw [List.map_map]
  rfl

theorem names_plainField (entries : List (String × Option String)) :
    (entries.map plainField).map Field.name = entries.map Prod.fst := by
  rw [List.map_map]
  rfl

theorem names_described : declaration.described.fields.map Field.name = declaration.names := by
  rw [described, List.map_map]
  rfl

theorem valid_of_schema {schema : Schema} (accepted : declaration.schema = .ok schema) :
    declaration.Valid ∧ schema = declaration.described := by
  have wellFormed := wellFormed_schema declaration accepted
  rw [Declaration.schema] at accepted
  split at accepted
  · cases accepted
  next shown =>
  obtain ⟨declared, listed, accepted⟩ := ok_of_bind_ok accepted
  obtain ⟨fields, renamed, accepted⟩ := ok_of_bind_ok accepted
  obtain ⟨_, checked, accepted⟩ := ok_of_bind_ok accepted
  obtain ⟨_, flagged, accepted⟩ := ok_of_bind_ok accepted
  obtain rfl := Except.ok.inj accepted
  obtain ⟨rfl, tagged⟩ := fields_of_fieldsAfter listed
  obtain ⟨rfl, known⟩ := fields_of_applyRenames renamed
  rw [names_plainField] at known
  rw [map_renamedField_plainField] at *
  have checked := checkDeclared_eq_ok checked
  have distinct := wellFormed.distinct
  have apart := wellFormed.apart
  rw [names_described] at checked distinct
  refine ⟨?_, ?_⟩
  · constructor
    · rw [isEmpty_trim_iff] at shown
      simpa using shown
    · exact distinct
    · intro member
      rw [← names_described] at member
      obtain ⟨field, member, same⟩ := List.mem_map.mp member
      exact apart field member same
    · exact tagged
    · exact known
    · intro names given name member
      refine checked name (List.mem_append_left _ ?_)
      rw [given]
      exact member
    · intro name member
      exact checked name (List.mem_append_right _ member)
    · intro flag soft
      rw [soft] at flagged
      obtain ⟨field, member, rfl, bool⟩ := bool_of_checkDeletion flagged
      obtain ⟨tag, member, kind, -⟩ := exists_of_mem_described member
      refine ⟨tag, member, ?_⟩
      rw [bool] at kind
      cases known : Kind.declared? tag <;> rw [known] at kind <;> simp_all
  · rw [names_described]
    rfl

theorem flaw_of_schema {cause : Misuse} (refused : declaration.schema = .error cause) :
    declaration.Flaw cause := by
  rw [Declaration.schema] at refused
  split at refused
  · next shown =>
    obtain rfl := Except.error.inj refused
    exact .table (isEmpty_trim_iff.mp shown)
  rcases error_of_bind_error refused with unlisted | ⟨declared, listed, refused⟩
  · obtain ⟨member, rfl⟩ | ⟨name, again, rfl⟩ | ⟨name, tag, member, unknown, rfl⟩ :=
      flaw_of_fieldsAfter unlisted
    · exact .identifier member
    · exact .twice name (again.resolve_right fun seen => absurd seen.1 (by simp))
    · exact .tag name tag member unknown
  obtain ⟨rfl, -⟩ := fields_of_fieldsAfter listed
  rcases error_of_bind_error refused with unnamed | ⟨fields, renamed, refused⟩
  · obtain ⟨name, column, member, unknown, rfl⟩ := flaw_of_applyRenames unnamed
    rw [names_plainField] at unknown
    exact .rename name column member unknown
  obtain ⟨rfl, -⟩ := fields_of_applyRenames renamed
  rw [map_renamedField_plainField] at refused
  rcases error_of_bind_error refused with unchecked | ⟨_, -, refused⟩
  · obtain ⟨name, member, unknown, rfl⟩ := flaw_of_checkDeclared unchecked
    rw [names_described] at member unknown
    refine .listed name ?_ unknown
    rcases List.mem_append.mp member with member | member
    · cases given : declaration.saveFields with
      | none =>
          rw [given] at member
          exact absurd member unknown
      | some names =>
          rw [given] at member
          exact .inl ⟨names, rfl, member⟩
    · exact .inr member
  rcases error_of_bind_error refused with unflagged | ⟨_, -, refused⟩
  · obtain ⟨flag, soft, ⟨unknown, rfl⟩ | ⟨field, member, rfl, other, rfl⟩⟩ :=
      flaw_of_checkDeletion unflagged
    · rw [names_described] at unknown
      exact .flagUnknown flag soft unknown
    · obtain ⟨tag, listed, kind, -⟩ := exists_of_mem_described member
      refine .flagNotBool field.name tag soft listed fun bool => other ?_
      rw [kind, bool]
      rfl
  · cases refused

/-- A name that is described is found in its column, and any other name, like the identifier's, is its
own column. -/
theorem column_described (wellFormed : declaration.described.WellFormed) :
    (∀ name ∈ declaration.names, declaration.described.column name = declaration.columnOf name) ∧
      ∀ name, name ∉ declaration.names → declaration.described.column name = name := by
  constructor
  · intro name member
    rw [← names_described] at member
    obtain ⟨field, listed, rfl⟩ := List.mem_map.mp member
    obtain ⟨-, -, -, column⟩ := exists_of_mem_described listed
    rw [Schema.column_of_field? (wellFormed.field?_name listed), column]
  · intro name foreign
    rw [Schema.column]
    cases found : declaration.described.field? name with
    | none => rfl
    | some field =>
        obtain ⟨member, rfl⟩ := Schema.field?_some found
        rw [← names_described] at foreign
        exact absurd (List.mem_map_of_mem member) foreign

/-- The valid declarations are accepted, and no others; what is accepted has the schema that it
describes, and what is refused is refused as a misuse, for a flaw of it. -/
theorem schema_valid_iff (declaration : Declaration) :
    ((∃ schema, declaration.schema = .ok schema) ↔ declaration.Valid) ∧
      (∀ schema, declaration.schema = .ok schema → schema = declaration.described ∧
        (∀ name ∈ declaration.names, schema.column name = declaration.columnOf name) ∧
        (∀ name, name ∉ declaration.names → schema.column name = name) ∧
        schema.column schema.idColumn = schema.idColumn) ∧
      ∀ fault, Fault.ofMisuse declaration.schema = .error fault →
        ∃ cause, fault = .misuse cause ∧ declaration.Flaw cause := by
  refine ⟨⟨?_, fun valid => ?_⟩, fun schema accepted => ?_, fun fault refused => ?_⟩
  · rintro ⟨schema, accepted⟩
    exact (valid_of_schema accepted).1
  · cases result : declaration.schema with
    | ok schema => exact ⟨schema, rfl⟩
    | error cause => exact absurd valid (flaw_of_schema result).not_valid
  · obtain ⟨valid, rfl⟩ := valid_of_schema accepted
    obtain ⟨declared, foreign⟩ := column_described (wellFormed_schema declaration accepted)
    exact ⟨rfl, declared, foreign, foreign _ valid.apart⟩
  · cases result : declaration.schema with
    | ok schema =>
        rw [result] at refused
        cases refused
    | error cause =>
        rw [result] at refused
        exact ⟨cause, (Except.error.inj refused).symm, flaw_of_schema result⟩

def renamedTwice : Declaration where
  table := " people"
  fields := [("name", none), ("born", some "datetime"), ("active", some "bool")]
  renames := [("name", "title"), ("born", "born_at"), ("name", "full_name")]
  saveFields := some ["active", "name"]
  groupBy := ["born"]
  deletion := .soft "active"

/-- The declaration is valid, and of the names that a field was given the last one is its column; with
the flag untagged it is refused. -/
theorem schema_valid_iff_renamedTwice :
    renamedTwice.Valid ∧
      (∀ schema, renamedTwice.schema = .ok schema →
        schema.fields = [⟨"name", .string, "full_name"⟩, ⟨"born", .timestamp, "born_at"⟩,
          ⟨"active", .bool, "active"⟩] ∧ schema.column "name" = "full_name") ∧
      ¬ Valid { renamedTwice with fields := [("name", none), ("born", none), ("active", none)] } := by
  obtain ⟨accepts, describes, -⟩ := schema_valid_iff renamedTwice
  refine ⟨accepts.mp ⟨_, rfl⟩, fun schema accepted => ?_, fun valid => ?_⟩
  · obtain ⟨rfl, columns, -⟩ := describes schema accepted
    exact ⟨rfl, columns "name" (by decide)⟩
  · obtain ⟨schema, accepted⟩ := (schema_valid_iff _).1.mpr valid
    cases accepted

end Declaration

end RecordMapper
