import RecordMapper.Proofs.Entity.Schema
import RecordMapper.Proofs.Sql.Arrow
import RecordMapper.Proofs.Store.Table
import RecordMapper.Search
/-! # Rows as a search shows them

The select list of a search asks for all columns and for each renamed one once more, so that a stored
row shows the cell of every field under the field's name, whatever the columns are called
(`Schema.get?_shown`). -/
set_option autoImplicit false
namespace RecordMapper

open RecordMapper.Filter (Column)

/-- The fields have columns of their own in the table, and names that a select list can hold. -/
structure Schema.IsStoredIn (schema : Schema) (table : Table) : Prop where
  name : table.name = schema.table
  idColumn : table.idColumn = schema.idColumn
  columns : ∀ field ∈ schema.fields, field.column ∈ table.columns
  distinct : (schema.fields.map Field.column).Nodup
  apart : ∀ field ∈ schema.fields, field.column ≠ schema.idColumn
  plain : ∀ field ∈ schema.fields, Sql.IsPlainName field.name ∧ Sql.IsPlainName field.column

namespace Schema
variable {schema : Schema}

def renamed (schema : Schema) : List Field :=
  schema.fields.filter fun field => field.column != field.name

theorem mem_renamed {field : Field} :
    field ∈ schema.renamed ↔ field ∈ schema.fields ∧ field.column ≠ field.name := by
  simp [renamed]

def entry (field : Field) : Sql.SelectField := ⟨field.column, some field.name, false⟩

theorem fields_select (request : Search) (plain : ∀ field ∈ schema.fields,
    Sql.IsPlainName field.name ∧ Sql.IsPlainName field.column) :
    (request.select schema).fields =
      if schema.renamed.isEmpty then [] else ⟨"*", none, false⟩ :: schema.renamed.map entry := by
  have entries : ∀ field ∈ schema.renamed,
      Sql.SelectField.ofText (field.column ++ " -> " ++ field.name) = entry field := by
    intro field member
    obtain ⟨inside, differs⟩ := mem_renamed.mp member
    obtain ⟨name, column⟩ := plain field inside
    exact Sql.SelectField.ofText_arrow column name (Ne.symm differs)
  have list : schema.selectFields =
      if schema.renamed.isEmpty then []
      else "*" :: schema.renamed.map fun field => field.column ++ " -> " ++ field.name := rfl
  show schema.selectFields.map Sql.SelectField.ofText = _
  rw [list]
  split
  · rfl
  · rw [List.map_cons, List.map_map, Sql.SelectField.ofText_star]
    exact congrArg _ (List.map_congr_left entries)

theorem isOutput_select (request : Search) (plain : ∀ field ∈ schema.fields,
    Sql.IsPlainName field.name ∧ Sql.IsPlainName field.column) :
    ∀ field ∈ (request.select schema).fields, field.IsOutput := by
  rw [fields_select request plain]
  intro field member
  split at member
  · cases member
  · rcases List.mem_cons.mp member with rfl | member
    · exact ⟨rfl, fun _ => rfl⟩
    · obtain ⟨original, inside, rfl⟩ := List.mem_map.mp member
      obtain ⟨inside, -⟩ := mem_renamed.mp inside
      exact ⟨rfl, fun all => absurd all (plain original inside).2.single⟩

/-- All columns come first, and then each renamed one under its field's name. -/
theorem outputs_select (request : Search) (plain : ∀ field ∈ schema.fields,
    Sql.IsPlainName field.name ∧ Sql.IsPlainName field.column) :
    ∃ source, (request.select schema).outputs = .every source :: schema.renamed.map fun field =>
      .named (Column.of schema.table field.column) field.name := by
  have outputs : ∀ field ∈ schema.renamed, (entry field).output schema.table =
      .named (Column.of schema.table field.column) field.name := by
    intro field member
    obtain ⟨inside, -⟩ := mem_renamed.mp member
    exact if_neg (plain field inside).2.single
  have every : (⟨"*", none, false⟩ : Sql.SelectField).output schema.table =
      .every (if schema.table.isEmpty then none else some schema.table) := rfl
  rw [Sql.Select.outputs, fields_select request plain]
  cases none : schema.renamed.isEmpty with
  | true =>
      refine ⟨Option.none, ?_⟩
      rw [List.isEmpty_iff.mp none]
      rfl
  | false =>
      refine ⟨if schema.table.isEmpty then Option.none else some schema.table, ?_⟩
      show List.map (fun field => field.output schema.table) (_ :: schema.renamed.map entry) = _
      rw [List.map_cons, List.map_map, every]
      exact congrArg _ (List.map_congr_left outputs)

/-- A row shows the cell of each field under the field's name, and the identifier under its own. -/
theorem get?_shown (wellFormed : schema.WellFormed) {table : Table} (stored : schema.IsStoredIn table)
    (row : StoredRow) {source : Option String} {outputs : List Sql.Output}
    (all : outputs = .every source :: schema.renamed.map fun field =>
      .named (Column.of schema.table field.column) field.name) :
    (table.shown row outputs).get? schema.idColumn = some (row schema.idColumn) ∧
      ∀ field ∈ schema.fields,
        (table.shown row outputs).get? field.name = some (row field.column) := by
  have shape : table.shown row outputs = (table.columns.map fun column => (column, row column)) ++
      schema.renamed.map fun field => (field.name, row field.column) := by
    rw [all, Table.shown, List.flatMap_cons, List.flatMap_map]
    refine congrArg (_ ++ ·) ?_
    exact List.map_eq_flatMap.symm
  have column : ∀ column ∈ table.columns,
      Row.get? (table.columns.map fun column => (column, row column)) column = some (row column) := by
    intro column member
    refine Row.get?_some (List.mem_map_of_mem member) fun other inside => ?_
    obtain ⟨same, -, equal⟩ := List.mem_map.mp inside
    cases equal
    rfl
  have alone : ∀ name, (∀ field ∈ schema.renamed, field.name ≠ name) →
      Row.get? (schema.renamed.map fun field => (field.name, row field.column)) name = none := by
    intro name differs
    refine Row.get?_none fun member => ?_
    rw [List.map_map] at member
    obtain ⟨field, inside, same⟩ := List.mem_map.mp member
    exact differs field inside same
  rw [shape]
  constructor
  · have own := column schema.idColumn (stored.idColumn ▸ table.idColumn_mem)
    rw [Row.get?_append, own, alone]
    · rfl
    · intro field member
      exact wellFormed.apart field (mem_renamed.mp member).1
  · intro field member
    rw [Row.get?_append]
    by_cases same : field.column = field.name
    · have own := column field.column (stored.columns field member)
      rw [← same, own, alone]
      · rfl
      · intro other otherMember equal
        obtain ⟨inside, differs⟩ := mem_renamed.mp otherMember
        rw [same] at equal
        obtain rfl := wellFormed.eq_of_name inside member equal
        exact differs same
    · have shown : Row.get? (schema.renamed.map fun field => (field.name, row field.column))
          field.name = some (row field.column) := by
        refine Row.get?_some (List.mem_map_of_mem (mem_renamed.mpr ⟨member, same⟩)) ?_
        intro cell inside
        obtain ⟨other, otherMember, equal⟩ := List.mem_map.mp inside
        obtain ⟨names, rfl⟩ := Prod.mk.inj equal
        rw [wellFormed.eq_of_name (mem_renamed.mp otherMember).1 member names]
      rw [shown]
      rfl

end Schema

end RecordMapper
