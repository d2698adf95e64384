import RecordMapper.Proofs.Entity.Schema
import RecordMapper.Proofs.Store.Calls
import RecordMapper.Store.Search
/-! # What a search finds

A search asks one question and goes on with the answer (`search_asks`).  Of the rows in the answer,
those that can be read are its records (`keepReadable_spec`), and each of them has the schema that is
known for the entity (`schema_of_search`) and a value for each field of it (`Record.filled_ofRow`). -/
set_option autoImplicit false
namespace RecordMapper

open Session (runOn)

theorem Record.schema_ofRow {entity : String} {schema : Schema} {hooks : Hooks}
    {zone : Calendar.Offset} {row : Row} {record : Record}
    (read : Record.ofRow entity schema hooks zone row = .ok record) : record.schema = schema := by
  obtain ⟨values, -, made⟩ := ok_of_bind_ok read
  obtain rfl := Except.ok.inj made
  rfl

theorem Record.filled_ofRow {entity : String} {schema : Schema} {hooks : Hooks}
    {zone : Calendar.Offset} {row : Row} {record : Record}
    (read : Record.ofRow entity schema hooks zone row = .ok record) :
    record.values.length = record.schema.fields.length := by
  obtain ⟨values, each, made⟩ := ok_of_bind_ok read
  obtain rfl := Except.ok.inj made
  exact (mapM_eq_ok_iff.mp each).length_eq.symm

namespace Store
variable {σ : Type}

/-- What can be read is kept in order, and no call is made. -/
theorem keepReadable_spec (table : String) (rows : List (Except Fault Record × Nat))
    (store : Store σ) :
    (runOn (keepReadable table rows) store).1 = .ok (rows.filterMap fun row => row.1.toOption) ∧
      store.Called (runOn (keepReadable table rows) store).2 [] := by
  induction rows generalizing store with
  | nil => exact ⟨rfl, .refl store⟩
  | cons row rest ih =>
      obtain ⟨read, index⟩ := row
      rw [keepReadable.eq_def]
      cases read with
      | ok record =>
          obtain ⟨kept, called⟩ := ih store
          dsimp only
          rw [Session.runOn_bind]
          rcases ran : runOn (keepReadable table rest) store with ⟨result, after⟩
          rw [ran] at kept called
          obtain rfl : result = .ok _ := kept
          exact ⟨rfl, called⟩
      | error fault =>
          obtain ⟨kept, called⟩ := ih (store.record (.warning (.rowSkipped table index fault)))
          dsimp only
          rw [Session.runOn_bind, warn, Session.runOn_modify]
          exact ⟨kept, (called_warning store _).trans called⟩

/-- The search goes on with what the backend answers, in a store that knows the entity. -/
theorem search_asks {entity : String} (request : Search) {store : Store σ} {schema : Schema}
    (known : (runOn (Store.schema entity) store).1 = .ok schema) :
    ∃ after, store.Agrees after ∧ runOn (search entity request) store =
      match after.ask (.query ((request.select schema).statement after.dialect)) with
      | (.error message, later) =>
        (.ok [], later.record (.warning (.searchFailed schema.table message)))
      | (.ok rows, later) =>
        let read := Record.ofRow entity schema (after.hooks entity) after.dialect.zone
        runOn (keepReadable schema.table (rows.map read).zipIdx) later := by
  obtain ⟨after, looked, agrees, -⟩ := exists_known known
  refine ⟨after, agrees, ?_⟩
  rcases reply : after.ask (.query ((request.select schema).statement after.dialect)) with
    ⟨message | rows, later⟩
  · simp only [runOn_search, looked, reply]
  · simp only [runOn_search, looked, reply]

theorem searchOne_looks (entity : String) (request : Search) (store : Store σ) :
    runOn (searchOne entity request) store =
      ((runOn (search entity request) store).1.map fun found =>
          match found with
          | [record] => some record
          | _ => none,
        (runOn (search entity request) store).2) := by
  rw [searchOne, Session.runOn_bind]
  rcases runOn (search entity request) store with ⟨fault | found, after⟩
  · rfl
  · rcases found with _ | ⟨record, _ | ⟨next, rest⟩⟩ <;> rfl

theorem exists_found {entity : String} (request : Search) {store : Store σ} {schema : Schema}
    (known : (runOn (Store.schema entity) store).1 = .ok schema) :
    ∃ found after, runOn (search entity request) store = (.ok found, after) ∧
      ∀ record ∈ found, ∃ row, Record.ofRow entity schema (store.hooks entity) store.dialect.zone row =
        .ok record := by
  obtain ⟨after, agrees, asked⟩ := search_asks request known
  rw [agrees.hooks] at asked
  rw [asked]
  rcases after.ask (.query ((request.select schema).statement after.dialect)) with
    ⟨message | rows, later⟩
  · exact ⟨[], _, rfl, fun record member => absurd member List.not_mem_nil⟩
  · have kept := (keepReadable_spec schema.table
      (rows.map (Record.ofRow entity schema (store.hooks entity) after.dialect.zone)).zipIdx later).1
    refine ⟨_, _, Prod.ext kept rfl, ?_⟩
    intro record member
    obtain ⟨⟨read, index⟩, inside, readable⟩ := List.mem_filterMap.mp member
    have place := List.mem_zipIdx_iff_getElem?.mp inside
    obtain ⟨row, -, reads⟩ := List.mem_map.mp (List.mem_of_getElem? place)
    cases read with
    | error fault => cases readable
    | ok other =>
        obtain rfl : other = record := Option.some.inj readable
        rw [agrees.dialect] at reads
        exact ⟨row, reads⟩

theorem known_of_search {entity : String} {request : Search} {store : Store σ} {found : List Record}
    (searched : (runOn (search entity request) store).1 = .ok found) :
    ∃ schema, (runOn (Store.schema entity) store).1 = .ok schema := by
  rw [runOn_search] at searched
  rcases looked : runOn (Store.schema entity) store with ⟨fault | schema, after⟩
  · rw [looked] at searched
    cases searched
  · exact ⟨schema, rfl⟩

theorem ofRow_of_search {entity : String} {request : Search} {store : Store σ} {schema : Schema}
    (known : (runOn (Store.schema entity) store).1 = .ok schema) {found : List Record}
    (searched : (runOn (search entity request) store).1 = .ok found) :
    ∀ record ∈ found, ∃ row, Record.ofRow entity schema (store.hooks entity) store.dialect.zone row =
      .ok record := by
  obtain ⟨records, after, ended, read⟩ := exists_found request known
  rw [ended] at searched
  rw [← Except.ok.inj searched]
  exact read

theorem schema_of_search {entity : String} {request : Search} {store : Store σ} {schema : Schema}
    (known : (runOn (Store.schema entity) store).1 = .ok schema) {found : List Record}
    (searched : (runOn (search entity request) store).1 = .ok found) :
    ∀ record ∈ found, record.schema = schema := by
  intro record member
  obtain ⟨row, read⟩ := ofRow_of_search known searched record member
  exact Record.schema_ofRow read

/-- A backend that answers every query with the same rows. -/
def answering (rows : List Row) : Driver Unit
  | .query _, state => (.ok rows, state)
  | .exec _, state => (.ok (0 : Nat), state)
  | .insert _, state => (.ok (1 : Int64), state)
  | .begin, state | .commit, state | .rollback, state => (.ok (), state)

end Store

end RecordMapper
