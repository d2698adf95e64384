import RecordMapper.Proofs.Entity.Schema
import RecordMapper.Proofs.Sql.OutputName
import RecordMapper.Proofs.Sql.Slots
import RecordMapper.Proofs.Store.Conditions
/-! # Names in the text of a select list

A schema puts the names of columns and fields into entries of a select list, which are read again when
the statement is built.  A renamed column comes back under its field's name, and a column to group by
is written as itself, as long as the name has none of the marks of an entry (`names_survive_iff`). -/
set_option autoImplicit false
namespace RecordMapper

open Session (runOn)
open Sql.Fragment (params_append sql sql_append sql_joined texts texts_unbound)

namespace Sql

def Dialect.groupTerm (dialect : Dialect) (table entry : String) : String :=
  let field := SelectField.ofText entry
  dialect.expressionText table field.column field.count

/-- A column to group by is written as itself if and only if it is held as it is. -/
theorem Dialect.groupTerm_eq_iff (dialect : Dialect) {table : String} (named : table ≠ "")
    {column : String} :
    dialect.groupTerm table column = dialect.quoted table ++ "." ++ dialect.quoted column ↔
      Verbatim column ∧ column ≠ "*" := by
  have qualifier : dialect.qualifier table = dialect.quoted table ++ "." :=
    if_neg (by rwa [String.isEmpty_iff])
  rw [Dialect.groupTerm, ← qualifier]
  refine (dialect.expressionText_eq_iff table).trans ?_
  rw [← SelectField.ofText_eq_self_iff, and_left_comm, ← and_assoc]

theorem Fragment.texts_groups (dialect : Dialect) (table : String) (n : Nat) (entries : List String) :
    texts dialect n (entries.map fun entry => (SelectField.ofText entry).expression table) =
      entries.map (dialect.groupTerm table) :=
  texts_unbound dialect (fun _ => params_expression _ _)
    (fun n _ => SelectField.sql_expression dialect n _ table) n entries

/-- The selection without its groups and its verbatim texts. -/
def Select.ungrouped (select : Select) : Select :=
  { select with groupBy := [], orderBy := [], raw := none }

theorem Select.statement_listed (select : Select) (dialect : Dialect) :
    let terms := select.groupBy.map (dialect.groupTerm select.table)
    Fragment.statement dialect (select.listed dialect.zone) =
      ⟨(select.ungrouped.statement dialect).sql ++
          (if terms.isEmpty then "" else " GROUP BY " ++ String.intercalate ", " terms),
        (select.ungrouped.statement dialect).params⟩ := by
  intro terms
  have bare : select.ungrouped.statement dialect = Fragment.statement dialect (select.front ++
      (Where.ofConditions select.conditions select.table select.compose dialect.zone).suffix) := by
    have fragments := select.ungrouped.fragments_eq_listed dialect.zone rfl rfl
    rw [Select.statement, fragments]
    exact congrArg (Fragment.statement dialect) (List.append_nil _)
  have clause : ∀ n, sql dialect n select.groupFragments =
      if terms.isEmpty then "" else " GROUP BY " ++ String.intercalate ", " terms := by
    intro n
    have none : terms.isEmpty = select.groupBy.isEmpty := List.isEmpty_map
    rw [Select.groupFragments, none]
    split
    · rfl
    · rw [sql, sql_joined, Fragment.texts_groups]
  rw [bare, Select.listed, Fragment.statement, Fragment.statement, sql_append, clause, params_append,
    params_groups, List.append_nil]

end Sql

namespace Schema

/-- A renamed field has an entry of its own. -/
theorem mem_selectFields {schema : Schema} {field : Field} (member : field ∈ schema.fields)
    (differs : field.column ≠ field.name) :
    Sql.SelectField.entryText false field.column field.name ∈ schema.selectFields := by
  have renamed : field ∈ schema.fields.filter fun field => field.column != field.name := by
    simp [member, differs]
  have some' : ¬ (schema.fields.filter fun field => field.column != field.name).isEmpty := by
    rw [List.isEmpty_iff]
    exact List.ne_nil_of_mem renamed
  rw [selectFields, if_neg some']
  refine List.mem_cons_of_mem _ (List.mem_map.mpr ⟨field, renamed, ?_⟩)
  simp [Sql.SelectField.entryText]

end Schema

namespace Store

/-- The entry that a valid schema has for a renamed field is read as its column under its name if and
only if an entry can hold the column as it is and the name has no white space around it.  In the
statement that a search sends, a column to group by is written as itself, with its table in front, if
and only if an entry can hold it as it is and it does not stand for all columns. -/
theorem names_survive_iff {declaration : Declaration} {schema : Schema}
    (accepted : declaration.schema = .ok schema) :
    (∀ field ∈ schema.fields, field.column ≠ field.name →
      let entry := Sql.SelectField.entryText false field.column field.name
      entry ∈ schema.selectFields ∧
        (Sql.SelectField.ofText entry = ⟨field.column, some field.name, false⟩ ↔
          Sql.Verbatim field.column ∧ Text.trim field.name = field.name)) ∧
    ∀ {σ : Type} (entity : String) (request : Search) (store : Store σ),
      (runOn (Store.schema entity) store).1 = .ok schema →
      let plain := (request.select schema).ungrouped.statement store.dialect
      ∃ (terms : List String) (succeeded : Bool) (later : List Event),
        (runOn (search entity request) store).2.journal = store.journal ++
          .call (.query ⟨plain.sql ++
            (if terms.isEmpty then "" else " GROUP BY " ++ String.intercalate ", " terms) ++
              request.verbatim, plain.params⟩) succeeded :: later ∧
        List.Forall₂ (fun name term =>
          term = store.dialect.quoted schema.table ++ "." ++
              store.dialect.quoted (schema.column name) ↔
            Sql.Verbatim (schema.column name) ∧ schema.column name ≠ "*") schema.groupBy terms := by
  have named := (declaration.wellFormed_schema accepted).named
  refine ⟨fun field member differs =>
    ⟨Schema.mem_selectFields member differs, Sql.SelectField.ofText_entryText_iff differs.symm⟩, ?_⟩
  intro σ entity request store known plain
  obtain ⟨succeeded, later, journal⟩ := journal_search entity request store known
  refine ⟨(request.select schema).groupBy.map (store.dialect.groupTerm schema.table), succeeded, later,
    ?_, ?_⟩
  · have listed := (request.select schema).statement_listed store.dialect
    have params : Sql.givenConditions (request.select schema).conditions store.dialect.zone =
        plain.params :=
      (Sql.params_select _ _).symm.trans (congrArg Sql.Statement.params listed)
    rw [journal, request.statement_select, listed, params]
    rfl
  · show List.Forall₂ _ schema.groupBy ((schema.groupBy.map schema.column).map _)
    rw [List.map_map, List.forall₂_map_right_iff, List.forall₂_same]
    exact fun name _ => Sql.Dialect.groupTerm_eq_iff store.dialect named

def parts : Declaration where
  table := "parts"
  fields := [("title", none), ("number", none)]
  renames := [("title", "part title"), ("number", "#no")]
  groupBy := ["title", "number"]

def partsSchema : Schema where
  table := "parts"
  idColumn := "id"
  fields := [⟨"title", .string, "part title"⟩, ⟨"number", .string, "#no"⟩]
  saveFields := ["title", "number"]
  groupBy := ["title", "number"]
  deletion := .hard

def partsStore : Store Unit :=
  Store.new (answering []) () .standard (Catalog.ofEntities fun _ => { declaration := parts })

theorem names_survive_parts :
    parts.schema = .ok partsSchema ∧
      (runOn (Store.schema "Part") partsStore).1 = .ok partsSchema ∧
      "part title -> title" ∈ partsSchema.selectFields ∧
      Sql.SelectField.ofText "part title -> title" = ⟨"part title", some "title", false⟩ ∧
      Sql.SelectField.ofText "#no -> number" ≠ ⟨"#no", some "number", false⟩ ∧
      ∃ (term : String) (succeeded : Bool) (later : List Event),
        (runOn (search "Part" {}) partsStore).2.journal = .call (.query
          ⟨"SELECT `parts`.*, `parts`.`part title` AS `title`, COUNT(`parts`.`no`) AS `number` " ++
            "FROM `parts` GROUP BY `parts`.`part title`, " ++ term, []⟩) succeeded :: later ∧
        term ≠ "`parts`.`#no`" := by
  have accepted : parts.schema = .ok partsSchema := rfl
  have known : (runOn (Store.schema "Part") partsStore).1 = .ok partsSchema := rfl
  have held : Sql.Verbatim "part title" := ⟨by decide, by decide +kernel, by decide⟩
  have counted : ¬ Sql.Verbatim "#no" := fun verbatim => verbatim.noCount rfl
  obtain ⟨read, grouped⟩ := names_survive_iff accepted
  obtain ⟨listed, title⟩ := read ⟨"title", .string, "part title"⟩ (by decide) (by decide)
  obtain ⟨-, number⟩ := read ⟨"number", .string, "#no"⟩ (by decide) (by decide)
  obtain ⟨terms, succeeded, later, journal, each⟩ := grouped "Part" {} partsStore known
  obtain ⟨first, rest, own, others, rfl⟩ := List.forall₂_cons_left_iff.mp each
  obtain ⟨term, none, other, nothing, rfl⟩ := List.forall₂_cons_left_iff.mp others
  obtain rfl := List.forall₂_nil_left_iff.mp nothing
  obtain rfl : first = "`parts`.`part title`" := own.mpr ⟨held, by decide⟩
  have plain : (({} : Search).select partsSchema).ungrouped.statement partsStore.dialect =
      ⟨"SELECT `parts`.*, `parts`.`part title` AS `title`, COUNT(`parts`.`no`) AS `number` " ++
        "FROM `parts`", []⟩ := by
    decide +kernel
  refine ⟨accepted, known, listed, title.mpr ⟨held, by decide⟩,
    fun read => counted (number.mp read).1, term, succeeded, later, ?_,
    fun whole => counted (other.mp whole).1⟩
  have verbatim : ({} : Search).verbatim = "" := by decide
  rw [journal, plain, verbatim, String.append_empty]
  refine congrArg (fun sent => Event.call (.query ⟨sent, []⟩) succeeded :: later) ?_
  have nonempty : ¬ ["`parts`.`part title`", term].isEmpty := Bool.false_ne_true
  rw [if_neg nonempty, String.intercalate_cons_of_ne_nil (List.cons_ne_nil term []),
    String.intercalate_singleton, ← String.append_assoc, ← String.append_assoc]
  rfl

/-- A column of a valid declaration whose name begins with the mark of a count: searches ask for the
count of another column in its place. -/
theorem column_read_as_count :
    parts.schema = .ok partsSchema ∧
      Sql.SelectField.ofText (Sql.SelectField.entryText false "#no" "number") =
        ⟨"no", some "number", true⟩ ∧
      (runOn (search "Part" {}) partsStore).2.journal = [.call (.query
        ⟨"SELECT `parts`.*, `parts`.`part title` AS `title`, COUNT(`parts`.`no`) AS `number` " ++
          "FROM `parts` GROUP BY `parts`.`part title`, COUNT(`parts`.`no`)", []⟩) true] := by
  refine ⟨rfl, by decide, by decide +kernel⟩

end Store

end RecordMapper
