import RecordMapper.Proofs.Filter.Key
import RecordMapper.Proofs.Sql.Filtering
import RecordMapper.Proofs.Store.Conditions
import RecordMapper.Proofs.Store.SoftDelete
/-! # Searching for active records

`searchActive` puts a test of the soft-delete flag behind the conditions of a search, as one entry
more.  Where the entries are joined with `AND`, the active ones are left of the rows that the search
keeps by itself; where they are joined with `OR`, rows are kept whose flag is not set, and active rows
that the search does not keep (`searchActive_keeps_iff`). -/
set_option autoImplicit false
namespace RecordMapper

open Calendar (Offset)
open RecordMapper.Filter (Column Conditions Connective Interpretation Key Operand Truth)
open Session (runOn)

/-! ## Columns as keys -/

namespace Schema
variable {schema : Schema}

/-- The names of columns, and that of the flag, are keys without marks, and no two fields share a
column. -/
structure Unmarked (schema : Schema) (flag : String) : Prop where
  flag : Key.Unmarked flag
  columns : ∀ field ∈ schema.fields, Key.Unmarked field.column
  distinct : (schema.fields.map Field.column).Nodup

theorem column_cases (schema : Schema) (name : String) : schema.column name = name ∨
    ∃ field ∈ schema.fields, field.name = name ∧ schema.column name = field.column := by
  cases found : schema.field? name with
  | none => exact .inl (by rw [column, found]; rfl)
  | some field =>
      obtain ⟨member, named⟩ := field?_some found
      exact .inr ⟨field, member, named, by rw [column, found]; rfl⟩

theorem columnKey_unmarked {name : String} (unmarked : Key.Unmarked name) :
    schema.columnKey name = schema.column name := by
  rw [columnKey, Key.ofText_unmarked unmarked]
  dsimp only
  split
  · next same => exact same.symm
  · exact String.empty_append

variable {flag : String}

theorem Unmarked.ofText_columnKey (unmarked : schema.Unmarked flag) (raw : String) :
    Key.ofText (schema.columnKey raw) =
      (Key.ofText raw).withField (schema.column (Key.ofText raw).field) := by
  rw [columnKey]
  split
  · next same => rw [same]; rfl
  · next differs =>
      obtain same | ⟨field, member, -, column⟩ := schema.column_cases (Key.ofText raw).field
      · exact absurd same differs
      · exact Key.ofText_withField raw (column ▸ unmarked.columns field member)

theorem Unmarked.column_ne (unmarked : schema.Unmarked flag) {field : Field}
    (member : field ∈ schema.fields) {name : String} (notField : name ≠ field.name)
    (notColumn : name ≠ field.column) : schema.column name ≠ field.column := by
  obtain same | ⟨other, otherMember, rfl, column⟩ := schema.column_cases name
  · rwa [same]
  · rw [column]
    intro same
    exact notField (congrArg Field.name
      (List.inj_on_of_nodup_map unmarked.distinct otherMember member same))

theorem Unmarked.columnKey_ne (unmarked : schema.Unmarked flag) {field : Field}
    (member : field ∈ schema.fields) {raw : String} (notField : (Key.ofText raw).field ≠ field.name)
    (notColumn : (Key.ofText raw).field ≠ field.column) : schema.columnKey raw ≠ field.column := by
  intro same
  have key := unmarked.ofText_columnKey raw
  rw [same, Key.ofText_unmarked (unmarked.columns field member)] at key
  exact unmarked.column_ne member notField notColumn (congrArg Key.field key).symm

theorem mem_keys_columnConditions {conditions : Conditions} {key : String} :
    key ∈ (schema.columnConditions conditions).keys ↔
      ∃ raw ∈ conditions.keys, schema.columnKey raw = key := by
  rw [columnConditions, OrderedMap.mem_keys_ofList, keys_columnConditions, List.mem_map]

theorem columnConditions_eq_nil_iff {conditions : Conditions} :
    (schema.columnConditions conditions).entries = [] ↔ conditions.entries = [] := by
  have keys : ∀ m : Conditions, m.entries = [] ↔ m.keys = [] := fun m => by simp [OrderedMap.keys]
  rw [keys, keys, List.eq_nil_iff_forall_not_mem, List.eq_nil_iff_forall_not_mem]
  simp [mem_keys_columnConditions]

end Schema

namespace Search
variable {schema : Schema} {flag : String} {request : Search}

def Spares (request : Search) (schema : Schema) (flag : String) : Prop :=
  ∀ raw ∈ request.conditions.keys,
    (Key.ofText raw).field ≠ flag ∧ (Key.ofText raw).field ≠ schema.column flag

instance (request : Search) (schema : Schema) (flag : String) :
    Decidable (request.Spares schema flag) :=
  inferInstanceAs (Decidable (∀ raw ∈ request.conditions.keys, _ ∧ _))

theorem Spares.containsField (spares : request.Spares schema flag) :
    request.conditions.containsField flag = false := by
  rw [Conditions.containsField, List.any_eq_false]
  intro raw member
  simpa using (spares raw member).1

/-- The search with the flag to be set as one condition more. -/
def active (request : Search) (flag : String) : Search :=
  request.filter flag (.ofValue (.bool true))

theorem entries_active (spares : request.Spares schema flag) (unmarked : Key.Unmarked flag) :
    (request.active flag).conditions.entries =
      request.conditions.entries ++ [(flag, .one (.bool true))] := by
  refine upsert_of_notMem flag _ _ fun member => ?_
  have key := (spares flag member).1
  rw [Key.ofText_unmarked unmarked] at key
  exact key rfl

end Search

namespace Schema
variable {schema : Schema} {flag : String} {request : Search}

theorem columnConditions_active (unmarked : schema.Unmarked flag)
    (declared : ∃ field ∈ schema.fields, field.name = flag ∧ schema.column flag = field.column)
    (spares : request.Spares schema flag) :
    (schema.columnConditions (request.active flag).conditions).entries =
      (schema.columnConditions request.conditions).entries ++
        [(schema.column flag, .one (.bool true))] := by
  obtain ⟨field, member, rfl, column⟩ := declared
  rw [columnConditions, Search.entries_active spares unmarked.flag, List.map_append,
    List.map_singleton, columnKey_unmarked unmarked.flag]
  refine OrderedMap.entries_ofList_concat _ _ _ fun given => ?_
  rw [keys_columnConditions] at given
  obtain ⟨raw, asked, same⟩ := List.mem_map.mp given
  obtain ⟨notField, notColumn⟩ := spares raw asked
  rw [column] at notColumn same
  exact unmarked.columnKey_ne member notField notColumn same

end Schema

/-! ## What the flag adds to the condition -/

def Filter.Interpretation.isSet {V : Type} (m : Interpretation V) (value : Option V) : Truth :=
  m.compare .eq value (some (m.value (Cell.ofBool true).param))

section
variable {V : Type} (m : Interpretation V)

theorem truth_flag {column : String} (unmarked : Key.Unmarked column) (value : Option V)
    (zone : Offset) :
    (Key.ofText column).truth m value zone (.one (.bool true)) = m.isSet value := by
  have single : (Key.mk column .eq false .or false).truth m value zone (.one (.bool true)) =
      m.member false value [m.value (Cell.ofBool true).param] := rfl
  rw [Key.ofText_unmarked unmarked, single, Interpretation.isSet]
  cases value with
  | none => rfl
  | some a => simp [Interpretation.member, Interpretation.compare]

namespace Search
variable {schema : Schema} {flag : String} {request : Search} {zone : Offset}

/-- The truth of the conditions of a search for a row, each aimed at its column. -/
def rowTruth (request : Search) (schema : Schema) (zone : Offset) (row : Column → Option V) : Truth :=
  (schema.columnConditions request.conditions).truth m row schema.table request.compose zone

variable (unmarked : schema.Unmarked flag)
  (declared : ∃ field ∈ schema.fields, field.name = flag ∧ schema.column flag = field.column)
  (spares : request.Spares schema flag)
include unmarked declared spares

theorem rowTruth_active (row : Column → Option V) :
    (request.active flag).rowTruth m schema zone row =
      if request.conditions.entries = [] then m.isSet (row (.of schema.table (schema.column flag)))
      else request.compose.apply (request.rowTruth m schema zone row)
        (m.isSet (row (.of schema.table (schema.column flag)))) := by
  have entries := schema.columnConditions_active unmarked declared spares
  obtain ⟨field, member, -, column⟩ := declared
  have free : Key.Unmarked (schema.column flag) := column ▸ unmarked.columns field member
  have added := truth_flag m free (row (.of schema.table (schema.column flag))) zone
  rw [Key.ofText_unmarked free] at added
  rw [rowTruth, Conditions.truth, entries, List.map_append, List.map_singleton,
    Key.ofText_unmarked free]
  dsimp only
  rw [added]
  split
  · next none =>
      rw [Schema.columnConditions_eq_nil_iff.mpr none]
      rfl
  · next some =>
      refine Connective.join_concat _ _ _ ?_
      rwa [Ne, List.map_eq_nil_iff, Schema.columnConditions_eq_nil_iff]

/-- The own conditions of a search say nothing of the flag. -/
theorem rowTruth_congr {row other : Column → Option V}
    (same : ∀ column, column ≠ .of schema.table (schema.column flag) → row column = other column) :
    request.rowTruth m schema zone row = request.rowTruth m schema zone other := by
  obtain ⟨field, member, rfl, column⟩ := declared
  refine Conditions.truth_congr _ m _ zone fun key asked => same _ ?_
  obtain ⟨raw, given, rfl⟩ := Schema.mem_keys_columnConditions.mp asked
  obtain ⟨notField, notColumn⟩ := spares raw given
  rw [unmarked.ofText_columnKey]
  rw [column] at notColumn ⊢
  exact fun equal => unmarked.column_ne member notField notColumn (congrArg Column.name equal)

/-- Joined with `OR`, the flag does not narrow the search: what has to be met is only one of the two. -/
theorem rowTruth_active_or (joined : request.compose = .or)
    (nonempty : request.conditions.entries ≠ [])
    (one : m.isSet (some (m.value (Cell.ofBool true).param)) = .yes) :
    ∃ row, (request.active flag).rowTruth m schema zone row = .yes ∧
      ¬ (request.rowTruth m schema zone row = .yes ∧
        m.isSet (row (.of schema.table (schema.column flag))) = .yes) := by
  have either : ∀ row, (request.active flag).rowTruth m schema zone row = .yes ↔
      request.rowTruth m schema zone row = .yes ∨
        m.isSet (row (.of schema.table (schema.column flag))) = .yes := by
    intro row
    rw [rowTruth_active m unmarked declared spares, if_neg nonempty, joined]
    exact Truth.or_eq_yes
  let row (value : Option V) : Column → Option V := fun column =>
    if column = .of schema.table (schema.column flag) then value else none
  have flagged : ∀ value, row value (.of schema.table (schema.column flag)) = value :=
    fun value => if_pos rfl
  have own : ∀ value, request.rowTruth m schema zone (row value) =
      request.rowTruth m schema zone (row none) := by
    intro value
    refine rowTruth_congr m unmarked declared spares fun column differs => ?_
    exact (if_neg differs).trans (if_neg differs).symm
  by_cases kept : request.rowTruth m schema zone (row none) = .yes
  · refine ⟨row none, (either _).mpr (.inl kept), fun both => ?_⟩
    rw [flagged] at both
    exact absurd both.2 (by simp [Interpretation.isSet, Interpretation.compare])
  · refine ⟨row (some (m.value (Cell.ofBool true).param)), (either _).mpr (.inr ?_), fun both => ?_⟩
    · rwa [flagged]
    · rw [own] at both
      exact kept both.1

theorem rowTruth_active_iff
    (one : m.isSet (some (m.value (Cell.ofBool true).param)) = .yes) :
    (∀ row, (request.active flag).rowTruth m schema zone row = .yes ↔
      request.rowTruth m schema zone row = .yes ∧
        m.isSet (row (.of schema.table (schema.column flag))) = .yes) ↔
    request.compose = .and ∨ request.conditions.entries = [] := by
  constructor
  · intro filters
    refine or_iff_not_imp_right.mpr fun nonempty => ?_
    cases joined : request.compose with
    | and => rfl
    | or =>
        obtain ⟨row, kept, notBoth⟩ :=
          rowTruth_active_or m unmarked declared spares joined nonempty one
        exact absurd ((filters row).mp kept) notBoth
  · rintro filters row
    rw [rowTruth_active m unmarked declared spares]
    split
    · next empty =>
        have all : request.rowTruth m schema zone row = .yes := by
          rw [rowTruth, Conditions.truth, Schema.columnConditions_eq_nil_iff.mpr empty]
          rfl
        simp [all]
    · next nonempty =>
        rw [filters.resolve_right nonempty]
        exact Truth.and_eq_yes

end Search

end

/-! ## The two searches -/

namespace Store
variable {σ : Type}

def Asked (store after : Store σ) (statement : Sql.Statement) (behind : String) : Prop :=
  ∃ succeeded,
    store.Called after [(.query ⟨statement.sql ++ behind, statement.params⟩, succeeded)]

theorem asked_search (entity : String) (request : Search) (store : Store σ) {schema : Schema}
    (known : (runOn (Store.schema entity) store).1 = .ok schema) :
    store.Asked (runOn (search entity request) store).2
      (Sql.Fragment.statement store.dialect ((request.select schema).listed store.dialect.zone))
      request.verbatim := by
  obtain ⟨succeeded, called⟩ := called_search entity request store known
  refine ⟨succeeded, ?_⟩
  rw [request.statement_select] at called
  rwa [Sql.Fragment.statement, Sql.params_select]

theorem runOn_searchActive {entity : String} {request : Search} {store : Store σ} {schema : Schema}
    {flag : String} (known : (runOn (Store.schema entity) store).1 = .ok schema)
    (soft : schema.deletion = .soft flag) (spares : request.Spares schema flag) :
    runOn (searchActive entity request) store =
      runOn (search entity (request.active flag)) (runOn (Store.schema entity) store).2 := by
  obtain ⟨after, looked, -⟩ := exists_known known
  rw [searchActive, Session.runOn_bind, looked]
  dsimp only
  rw [soft]
  dsimp only
  rw [spares.containsField]
  rfl

theorem asked_searchActive {entity : String} {request : Search} {store : Store σ} {schema : Schema}
    {flag : String} (known : (runOn (Store.schema entity) store).1 = .ok schema)
    (soft : schema.deletion = .soft flag) (spares : request.Spares schema flag) :
    store.Asked (runOn (searchActive entity request) store).2
      (Sql.Fragment.statement store.dialect
        (((request.active flag).select schema).listed store.dialect.zone)) request.verbatim := by
  have looked := called_schema entity store
  have again := schema_of_registry _ (registry_schema entity store known)
  obtain ⟨succeeded, called⟩ :=
    asked_search entity (request.active flag) (runOn (Store.schema entity) store).2
      (congrArg Prod.fst again)
  rw [runOn_searchActive known soft spares, ← (agrees_schema entity store).dialect]
  exact ⟨succeeded, looked.trans called⟩

/-- A search for active records asks once, and so does the search by itself.  The rows that the one
keeps are those that the other one keeps and whose flag is set, if and only if the conditions are
joined with `AND` or there are none. -/
theorem searchActive_keeps_iff {declaration : Declaration} (entity : String) (request : Search)
    (store : Store σ) {schema : Schema} {flag : String}
    (valid : declaration.schema = .ok schema)
    (known : (runOn (Store.schema entity) store).1 = .ok schema)
    (soft : schema.deletion = .soft flag) (unmarked : schema.Unmarked flag)
    (spares : request.Spares schema flag) (legible : store.dialect.Legible) :
    ∃ active own : Sql.Statement,
      store.Asked (runOn (searchActive entity request) store).2 active request.verbatim ∧
      store.Asked (runOn (search entity request) store).2 own request.verbatim ∧
      ∀ {V : Type} (m : Interpretation V),
        (∀ row, (active.rowTruth? store.dialect.quote m row).isSome ∧
          (own.rowTruth? store.dialect.quote m row).isSome) ∧
        (m.isSet (some (m.value (Cell.ofBool true).param)) = .yes →
          ((∀ row, active.Keeps store.dialect.quote m row ↔
            own.Keeps store.dialect.quote m row ∧
              m.isSet (row (.of schema.table (schema.column flag))) = .yes) ↔
          request.compose = .and ∨ request.conditions.entries = [])) := by
  obtain ⟨declared, passed⟩ := Declaration.passed_of_schema valid
  obtain ⟨field, member, rfl, -⟩ := Declaration.bool_of_checkDeletion (soft ▸ passed.deletion)
  have found := (declaration.wellFormed_schema valid).field?_name member
  have column : schema.column field.name = field.column := by rw [Schema.column, found]; rfl
  have truth : ∀ (request : Search) {V : Type} (m : Interpretation V) (row : Column → Option V),
      (Sql.Fragment.statement store.dialect
        ((request.select schema).listed store.dialect.zone)).rowTruth? store.dialect.quote m row =
      some (request.rowTruth m schema store.dialect.zone row) :=
    fun request _ m row => Sql.select_truth (request.select schema) legible m row
  refine ⟨_, _, asked_searchActive known soft spares, asked_search entity request store known,
    fun m => ⟨fun row => ⟨?_, ?_⟩, fun one => ?_⟩⟩
  · rw [truth]; rfl
  · rw [truth]; rfl
  · simp only [Sql.Statement.Keeps, truth, Option.some.injEq]
    exact Search.rowTruth_active_iff m unmarked ⟨field, member, rfl, column⟩ spares one

def taskStore : Store Unit :=
  Store.new (answering []) () .standard (Catalog.ofEntities fun _ => { declaration := tasks })

theorem unmarked_tasks : tasksSchema.Unmarked "done" := ⟨by decide, by decide, by decide⟩

def cellEquality : Interpretation Cell :=
  ⟨Param.value, id, fun operator a b => operator == .eq && a == b⟩

/-- A task of the wanted title, or one that is done: the deleted task of that title is kept. -/
theorem searchActive_keeps_inactive :
    let request : Search :=
      { conditions := ⟨[("title", .one (.str "plan"))], by decide⟩, compose := .or }
    let sent : Sql.Statement :=
      ⟨"SELECT * FROM `tasks` WHERE (`tasks`.`title` = ?) OR (`tasks`.`done` = ?)",
        [(Cell.str "plan").param, (Cell.int 1).param]⟩
    let deleted : Column → Option Cell := fun column =>
      if column.name = "title" then some (.str "plan") else some (.int 0)
    tasksSchema.Unmarked "done" ∧ request.Spares tasksSchema "done" ∧
      (runOn (searchActive "Task" request) taskStore).2.journal = [.call (.query sent) true] ∧
      sent.Keeps '\x60' cellEquality deleted ∧
      cellEquality.isSet (deleted (.of "tasks" "done")) = .no := by
  intro request sent deleted
  have built : sent = Sql.Fragment.statement .standard
      ((request.active "done" |>.select tasksSchema).listed .utc) := by decide
  refine ⟨unmarked_tasks, by decide, by decide, ?_, by decide⟩
  have legible : Sql.Dialect.standard.Legible := by decide
  rw [built]
  exact (Sql.select_truth _ legible _ _).trans (by decide)

theorem searchActive_keeps_iff_tasks :
    let request : Search :=
      { conditions := ⟨[("%title", .one (.str "p%")), ("!title", .many [.str "plan", .null])],
          by decide⟩
        orderBy := ["title"] }
    tasks.schema = .ok tasksSchema ∧
      (runOn (Store.schema "Task") taskStore).1 = .ok tasksSchema ∧
      tasksSchema.Unmarked "done" ∧ request.Spares tasksSchema "done" ∧
      Sql.Dialect.standard.Legible ∧
      ∃ active own : Sql.Statement,
        taskStore.Asked (runOn (searchActive "Task" request) taskStore).2 active
          " ORDER BY title" ∧
        taskStore.Asked (runOn (search "Task" request) taskStore).2 own " ORDER BY title" ∧
        ∀ row, active.Keeps '\x60' cellEquality row ↔
          own.Keeps '\x60' cellEquality row ∧
            cellEquality.isSet (row (.of "tasks" "done")) = .yes := by
  intro request
  have valid : tasks.schema = .ok tasksSchema := rfl
  have known : (runOn (Store.schema "Task") taskStore).1 = .ok tasksSchema := rfl
  have spares : request.Spares tasksSchema "done" := by decide
  have verbatim : request.verbatim = " ORDER BY title" := by decide
  obtain ⟨active, own, first, second, keeps⟩ := searchActive_keeps_iff "Task" request taskStore
    valid known rfl unmarked_tasks spares (by decide)
  rw [verbatim] at first second
  refine ⟨valid, known, unmarked_tasks, spares, by decide, active, own, first, second, ?_⟩
  exact ((keeps cellEquality).2 (by decide)).mpr (.inl rfl)

end Store

end RecordMapper
