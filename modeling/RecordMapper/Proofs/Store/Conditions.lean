import RecordMapper.Proofs.OrderedMap
import RecordMapper.Proofs.Sql.Groups
import RecordMapper.Proofs.Sql.Placeholders
import RecordMapper.Proofs.Store.Found
/-! # Conditions on their way to the backend

A search aims the keys of its conditions at columns and collects the keys again.  No condition is
lost as long as no two keys come to be the same, and one is lost as soon as two do
(`search_keeps_conditions_iff`). -/
set_option autoImplicit false
namespace RecordMapper

open Calendar (Offset)
open RecordMapper.Filter (Conditions)
open Session (runOn)

/-- A clause for each condition of a search, in order, aimed at the column of its field. -/
def Search.wanted (request : Search) (schema : Schema) (zone : Offset) : List Sql.Clause :=
  request.conditions.entries.map fun entry =>
    Sql.Clause.ofCondition schema.table zone (schema.columnKey entry.1) entry.2

def Search.verbatim (request : Search) : String :=
  (if request.orderBy.isEmpty then ""
    else " ORDER BY " ++ String.intercalate "," request.orderBy) ++
  (if (Text.trim (request.raw.getD "")).isEmpty then ""
    else " " ++ Text.trim (request.raw.getD ""))

/-- The keys of a search stay apart when they are aimed at columns. -/
def Search.Apart (request : Search) (schema : Schema) : Prop :=
  (request.conditions.keys.map schema.columnKey).Nodup

instance (request : Search) (schema : Schema) : Decidable (request.Apart schema) :=
  inferInstanceAs (Decidable (List.Nodup _))

namespace Schema

theorem keys_columnConditions (schema : Schema) (conditions : Conditions) :
    (conditions.entries.map fun entry => (schema.columnKey entry.1, entry.2)).map Prod.fst =
      conditions.keys.map schema.columnKey := by
  rw [OrderedMap.keys, List.map_map, List.map_map]
  rfl

theorem columnConditions_entries (schema : Schema) (conditions : Conditions)
    (apart : (conditions.keys.map schema.columnKey).Nodup) :
    (schema.columnConditions conditions).entries =
      conditions.entries.map fun entry => (schema.columnKey entry.1, entry.2) :=
  OrderedMap.entries_ofList _ (by rw [keys_columnConditions]; exact apart)

theorem columnConditions_size_lt (schema : Schema) (conditions : Conditions)
    (meet : ¬ (conditions.keys.map schema.columnKey).Nodup) :
    (schema.columnConditions conditions).size < conditions.size := by
  have less := OrderedMap.size_ofList_lt
    (conditions.entries.map fun entry => (schema.columnKey entry.1, entry.2))
    (by rw [keys_columnConditions]; exact meet)
  rw [List.length_map] at less
  exact less

end Schema

namespace Search

theorem sql_verbatim (request : Search) (schema : Schema) (dialect : Sql.Dialect) (n : Nat) :
    Sql.Fragment.sql dialect n ((request.select schema).orderFragments ++
      (request.select schema).rawFragments) = request.verbatim := by
  unfold Sql.Select.orderFragments Sql.Select.rawFragments Search.select verbatim
  dsimp only
  split <;> split <;> simp [Sql.Fragment.sql, String.append_assoc]

theorem statement_select (request : Search) (schema : Schema) (dialect : Sql.Dialect) :
    (request.select schema).statement dialect =
      ⟨(Sql.Fragment.statement dialect ((request.select schema).listed dialect.zone)).sql ++
          request.verbatim,
        Sql.givenConditions (request.select schema).conditions dialect.zone⟩ := by
  have params : Sql.Fragment.params ((request.select schema).orderFragments ++
      (request.select schema).rawFragments) = [] := by
    unfold Sql.Select.orderFragments Sql.Select.rawFragments
    dsimp only
    split <;> split <;> rfl
  rw [Sql.Select.statement, Sql.Select.fragments_listed, Sql.Fragment.statement,
    Sql.Fragment.sql_append, sql_verbatim, Sql.Fragment.params_append, params, List.append_nil,
    Sql.params_select]
  rfl

theorem clauses_of_apart (request : Search) (schema : Schema) (zone : Offset)
    (apart : request.Apart schema) :
    (Sql.Where.ofConditions (request.select schema).conditions schema.table request.compose
      zone).clauses = request.wanted schema zone := by
  have entries := schema.columnConditions_entries request.conditions apart
  simp only [Sql.Where.ofConditions, Search.select, entries, List.map_map, wanted]
  rfl

theorem givenConditions_of_apart (request : Search) (schema : Schema) (zone : Offset)
    (apart : request.Apart schema) :
    Sql.givenConditions (request.select schema).conditions zone =
      Sql.givenConditions request.conditions zone := by
  have entries := schema.columnConditions_entries request.conditions apart
  simp only [Sql.givenConditions, Search.select, entries, List.flatMap_map]

theorem clauses_lt_of_not_apart (request : Search) (schema : Schema) (zone : Offset)
    (meet : ¬ request.Apart schema) :
    (Sql.Where.ofConditions (request.select schema).conditions schema.table request.compose
      zone).clauses.length < (request.wanted schema zone).length := by
  have less := schema.columnConditions_size_lt request.conditions meet
  simp only [Sql.Where.ofConditions, wanted, List.length_map]
  exact less

end Search

namespace Store
variable {σ : Type}

/-- A search asks one question, and warns at most. -/
theorem journal_search_once (entity : String) (request : Search) (store : Store σ) {schema : Schema}
    (known : (runOn (Store.schema entity) store).1 = .ok schema) :
    ∃ succeeded later, (runOn (search entity request) store).2.journal = store.journal ++
        .call (.query ((request.select schema).statement store.dialect)) succeeded :: later ∧
      Event.calls later = [] := by
  obtain ⟨after, agrees, searched⟩ := search_asks request known
  rw [searched, ← agrees.journal, ← agrees.dialect]
  generalize (request.select schema).statement after.dialect = sent
  have asked := journal_ask after (.query sent)
  generalize after.ask (.query sent) = reply at asked
  obtain ⟨answer, later⟩ := reply
  dsimp only at asked
  cases answer with
  | error message =>
      refine ⟨false, [.warning (.searchFailed schema.table message)], ?_, rfl⟩
      show later.journal ++ _ = _
      rw [asked, List.append_assoc]
      rfl
  | ok rows =>
      obtain ⟨-, warnings, warned, silent⟩ := keepReadable_spec schema.table
        (rows.map (Record.ofRow entity schema (after.hooks entity) after.dialect.zone)).zipIdx later
      refine ⟨true, warnings, ?_, silent⟩
      refine warned.trans ?_
      rw [asked, List.append_assoc]
      rfl

theorem journal_search (entity : String) (request : Search) (store : Store σ) {schema : Schema}
    (known : (runOn (Store.schema entity) store).1 = .ok schema) :
    ∃ succeeded later, (runOn (search entity request) store).2.journal = store.journal ++
      .call (.query ((request.select schema).statement store.dialect)) succeeded :: later := by
  obtain ⟨succeeded, later, journal, -⟩ := journal_search_once entity request store known
  exact ⟨succeeded, later, journal⟩

theorem called_search (entity : String) (request : Search) (store : Store σ) {schema : Schema}
    (known : (runOn (Store.schema entity) store).1 = .ok schema) :
    ∃ succeeded, store.Called (runOn (search entity request) store).2
      [(.query ((request.select schema).statement store.dialect), succeeded)] := by
  obtain ⟨succeeded, later, journal, silent⟩ := journal_search_once entity request store known
  exact ⟨succeeded, _, journal, by rw [Event.calls_call, silent]⟩

/-- The statement that a search sends has one part in parentheses for each of its conditions, in
order, and the parameters of all of them, if and only if no two keys meet when they are aimed at
columns.  What the search gives word by word stands behind all this. -/
theorem search_keeps_conditions_iff (entity : String) (request : Search) (store : Store σ)
    {schema : Schema} (known : (runOn (Store.schema entity) store).1 = .ok schema)
    (legible : store.dialect.Legible) :
    ∃ (listed : Sql.Statement) (succeeded : Bool) (later : List Event),
      (runOn (search entity request) store).2.journal = store.journal ++
        .call (.query ⟨listed.sql ++ request.verbatim, listed.params⟩) succeeded :: later ∧
      ((listed.groups? store.dialect.quote =
          some ((request.wanted schema store.dialect.zone).map Sql.Clause.inner) ∧
        listed.params = Sql.givenConditions request.conditions store.dialect.zone) ↔
        request.Apart schema) := by
  obtain ⟨succeeded, later, journal⟩ := journal_search entity request store known
  have groups := Sql.select_groups (request.select schema) store.dialect legible
  have params := Sql.params_select (request.select schema) store.dialect.zone
  refine ⟨Sql.Fragment.statement store.dialect ((request.select schema).listed store.dialect.zone),
    succeeded, later, ?_, ?_⟩
  · rw [journal, request.statement_select]
    simp only [Sql.Fragment.statement, params]
  constructor
  · rintro ⟨every, -⟩
    refine Decidable.byContradiction fun meet => ?_
    have less := request.clauses_lt_of_not_apart schema store.dialect.zone meet
    have same := congrArg List.length (Option.some.inj (groups.symm.trans every))
    rw [List.length_map, List.length_map] at same
    exact absurd same (Nat.ne_of_lt less)
  · intro apart
    have clauses := request.clauses_of_apart schema store.dialect.zone apart
    refine ⟨?_, params.trans (request.givenConditions_of_apart schema store.dialect.zone apart)⟩
    rw [groups]
    exact congrArg (fun clauses => some (clauses.map Sql.Clause.inner)) clauses

def people : Declaration where
  table := "people"
  idColumn := "person_id"
  fields := [("name", none), ("city", none)]
  renames := [("name", "full_name")]
  groupBy := ["city"]

def peopleStore : Store Unit :=
  Store.new (answering []) () .standard (Catalog.ofEntities fun _ => { declaration := people })

/-- The two spellings of `LIKE` are two keys for a field and one for its column. -/
theorem search_loses_condition :
    let request : Search :=
      { conditions := ⟨[("%name", .one (.str "A%")), ("~name", .one (.str "%z"))], by decide⟩ }
    (runOn (search "Person" request) peopleStore).2.journal =
      [.call (.query
        ⟨"SELECT `people`.*, `people`.`full_name` AS `name` FROM `people` " ++
          "WHERE (`people`.`full_name` LIKE ?) GROUP BY `people`.`city`",
        [(Cell.str "%z").param]⟩) true] := by
  decide

def peopleSchema : Schema where
  table := "people"
  idColumn := "person_id"
  fields := [⟨"name", .string, "full_name"⟩, ⟨"city", .string, "city"⟩]
  saveFields := ["name", "city"]
  groupBy := ["city"]
  deletion := .hard

theorem search_keeps_conditions_people :
    let request : Search :=
      { conditions := ⟨[("%name", .one (.str "A%")), ("city", .many [.str "Oslo", .null])],
          by decide⟩
        orderBy := ["city"]
        raw := some "LIMIT 10" }
    (runOn (Store.schema "Person") peopleStore).1 = .ok peopleSchema ∧
      Sql.Dialect.standard.Legible ∧ request.Apart peopleSchema ∧
      ∃ (listed : Sql.Statement) (succeeded : Bool) (later : List Event),
        (runOn (search "Person" request) peopleStore).2.journal =
          .call (.query ⟨listed.sql ++ " ORDER BY city LIMIT 10", listed.params⟩) succeeded ::
            later ∧
        (listed.groups? '\x60').map List.length = some 2 ∧
        listed.params = [(Cell.str "A%").param, (Cell.str "Oslo").param] := by
  intro request
  have known : (runOn (Store.schema "Person") peopleStore).1 = .ok peopleSchema := rfl
  have apart : request.Apart peopleSchema := by decide
  have verbatim : request.verbatim = " ORDER BY city LIMIT 10" := by decide
  obtain ⟨listed, succeeded, later, journal, exact⟩ :=
    search_keeps_conditions_iff "Person" request peopleStore known (by decide)
  obtain ⟨groups, params⟩ := exact.mpr apart
  rw [verbatim] at journal
  refine ⟨known, by decide, apart, listed, succeeded, later, journal, ?_, params.trans (by decide)⟩
  exact congrArg (Option.map List.length) groups

end Store

end RecordMapper
