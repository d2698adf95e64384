import RecordMapper.Proofs.Record
import RecordMapper.Proofs.SortedMap
import RecordMapper.Proofs.Store.Found
import RecordMapper.Proofs.Store.Single
import RecordMapper.Proofs.Text.ByteOrder
/-! # The views of a search

The values of a field, the records grouped by them and the last record of each value are made of what
the search itself finds: the same question is asked, and the same records are arranged
(`Store.runOn_searchKnown`).  What is in one view is told by the others (`Store.views_agree`). -/
set_option autoImplicit false
namespace RecordMapper

open Session (runOn)

/-- The text under which a record is indexed by a field; one that it does not have counts as `NULL`. -/
def Record.indexedUnder (record : Record) (field : String) : String :=
  Store.indexKey ((record.get field).toOption.getD .null)

namespace Store
variable {σ : Type} {entity field : String} {request : Search} {store : Store σ} {schema : Schema}

theorem runOn_searchKnown (request : Search)
    (known : (runOn (Store.schema entity) store).1 = .ok schema)
    (named : schema.knows field = true) :
    runOn (searchKnown entity field request) store = runOn (search entity request) store := by
  have checked : schema.checkFields [field] = .ok () := by
    rw [Schema.checkFields_eq_ok_iff]
    intro name member
    rw [List.mem_singleton.mp member]
    exact named
  obtain ⟨after, looked, -, registered⟩ := exists_known known
  rw [searchKnown, Session.runOn_bind, looked]
  dsimp only
  rw [Session.runOn_bind, checked]
  show runOn (search entity request) after = _
  rw [runOn_search, runOn_search, looked, schema_of_registry after registered]

theorem get_of_search {found : List Record}
    (known : (runOn (Store.schema entity) store).1 = .ok schema)
    (searched : (runOn (search entity request) store).1 = .ok found)
    (named : schema.knows field = true) :
    ∀ record ∈ found, ∃ value, record.get field = .ok value := by
  intro record member
  apply Record.get_ok
  rw [schema_of_search known searched record member]
  exact named

theorem keyed_eq {found : List Record} (has : ∀ record ∈ found, ∃ value, record.get field = .ok value) :
    keyed field found = .ok (found.map fun record => (record.indexedUnder field, record)) := by
  rw [keyed, mapM_eq_ok_iff, List.forall₂_map_right_iff, List.forall₂_same]
  intro record member
  obtain ⟨value, got⟩ := has record member
  rw [Record.indexedUnder, got]
  rfl

/-- The pairs of one key are the records that are indexed under it. -/
theorem valuesOf_map (found : List Record) (key : String) :
    SortedMap.valuesOf key (found.map fun record => (record.indexedUnder field, record)) =
      found.filter fun record => record.indexedUnder field = key := by
  rw [SortedMap.valuesOf, List.filter_map, List.map_map]
  exact List.map_id _

theorem bytes_of_sorted {α : Type} {m : SortedMap α} (sorted : SortedMap.Sorted m) :
    (m.map Prod.fst).Pairwise fun key other => Text.toBytes key < Text.toBytes other := by
  apply List.Pairwise.imp _ sorted
  intro key other less
  exact Text.toBytes_lt less

/-- One search with the views of it by a field, all from the same store, so that the backend gives them
the same answer.  They leave the same store behind.  The values are those of the records that were
found, one by one.  In a group are the records that are indexed under its key, in the order of the
search; there is a group for each key that has a record, and each record that was found stands in one
of the groups.  Under each key of the groups the last record of the group is indexed.  Keys ascend by
their bytes. -/
theorem views_agree (request : Search) (known : (runOn (Store.schema entity) store).1 = .ok schema)
    (named : schema.knows field = true) :
    ∃ found values groups indexed after,
      runOn (search entity request) store = (.ok found, after) ∧
      runOn (searchField entity field request) store = (.ok values, after) ∧
      runOn (searchGrouped entity field request) store = (.ok groups, after) ∧
      runOn (searchIndexed entity field request) store = (.ok indexed, after) ∧
      List.Forall₂ (fun record value => record.get field = .ok value) found values ∧
      (∀ key group, (key, group) ∈ groups ↔
        group = (found.filter fun record => record.indexedUnder field = key) ∧ group ≠ []) ∧
      (groups.flatMap Prod.snd).Perm found ∧
      List.Forall₂ (fun group last => group.1 = last.1 ∧ group.2.getLast? = some last.2)
        groups indexed ∧
      ((groups.map Prod.fst).Pairwise fun key other => Text.toBytes key < Text.toBytes other) ∧
      ((indexed.map Prod.fst).Pairwise fun key other => Text.toBytes key < Text.toBytes other) := by
  obtain ⟨found, after, searched, -⟩ := exists_found request known
  have has := get_of_search known (congrArg Prod.fst searched) named
  have first := (runOn_searchKnown request known named).trans searched
  obtain ⟨values, read, each⟩ := mapM_ok (fun record : Record => record.get field)
    (fun record value => record.get field = .ok value) found fun record member =>
      (has record member).imp fun value got => ⟨got, got⟩
  let pairs := found.map fun record => (record.indexedUnder field, record)
  have keys : keyed field found = .ok pairs := keyed_eq has
  have records : pairs.map Prod.snd = found := by
    rw [List.map_map]
    exact List.map_id _
  refine ⟨found, values, SortedMap.group pairs, SortedMap.ofList pairs, after, searched, ?_, ?_, ?_,
    each, ?_, ?_, SortedMap.forall₂_group_ofList pairs, ?_, ?_⟩
  · rw [searchField, Session.runOn_bind, first]
    dsimp only
    rw [read]
    rfl
  · rw [searchGrouped, Session.runOn_bind, first]
    dsimp only
    rw [keys]
    rfl
  · rw [searchIndexed, Session.runOn_bind, first]
    dsimp only
    rw [keys]
    rfl
  · intro key group
    rw [SortedMap.mem_group, valuesOf_map]
  · exact records ▸ SortedMap.flatMap_group_perm pairs
  · exact bytes_of_sorted (SortedMap.sorted_collect _ pairs)
  · rw [SortedMap.ofList_eq_collect]
    exact bytes_of_sorted (SortedMap.sorted_collect _ pairs)

def fourUsers : List Row :=
  [[("id", .int 1), ("name", .str "Ann"), ("age", .int 42)],
    [("id", .int 2), ("name", .str "Bo")],
    [("id", .int 3), ("name", .str "Cy"), ("age", .int 5)],
    [("id", .int 4), ("name", .str "Di"), ("age", .int 42)]]

theorem views_agree_users :
    ∃ found values groups indexed after,
      runOn (search "User" {}) (answeredStore fourUsers) = (.ok found, after) ∧
      runOn (searchField "User" "age" {}) (answeredStore fourUsers) = (.ok values, after) ∧
      runOn (searchGrouped "User" "age" {}) (answeredStore fourUsers) = (.ok groups, after) ∧
      runOn (searchIndexed "User" "age" {}) (answeredStore fourUsers) = (.ok indexed, after) ∧
      found.length = 4 ∧ (groups.flatMap Prod.snd).Perm found ∧
      groups.map (fun group => (group.1, group.2.map fun record => record.id.text)) =
        [("", ["2"]), ("42", ["1", "4"]), ("5", ["3"])] ∧
      List.Forall₂ (fun group last => group.1 = last.1 ∧ group.2.getLast? = some last.2)
        groups indexed := by
  have known : (runOn (Store.schema "User") (answeredStore fourUsers)).1 = .ok usersSchema := rfl
  have named : usersSchema.knows "age" = true := by decide
  obtain ⟨found, values, groups, indexed, after, searched, listed, grouped, keyed, -, -, all, last, -⟩ :=
    views_agree {} known named
  have four : (runOn (search "User" {}) (answeredStore fourUsers)).1.toOption.map List.length =
      some 4 := by decide +kernel
  have ids : (runOn (searchGrouped "User" "age" {}) (answeredStore fourUsers)).1.toOption.map
      (fun groups => groups.map fun group => (group.1, group.2.map fun record => record.id.text)) =
        some [("", ["2"]), ("42", ["1", "4"]), ("5", ["3"])] := by decide +kernel
  rw [searched] at four
  rw [grouped] at ids
  exact ⟨found, values, groups, indexed, after, searched, listed, grouped, keyed,
    Option.some.inj four, all, Option.some.inj ids, last⟩

end Store

end RecordMapper
