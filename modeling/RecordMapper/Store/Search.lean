import RecordMapper.Record
import RecordMapper.Search
import RecordMapper.Store.Session
/-! # Searching a store

A search never fails because of the backend: a failed query counts as no rows, and a row that
cannot be read is left out, each with a warning.  The derived searches ask once and arrange what
was found. -/
set_option autoImplicit false
namespace RecordMapper

/-- The record in a row.  Each field is read from the cell of its own name, and from `NULL` if the
row has none; the identifier is taken as it is. -/
def Record.ofRow (entity : String) (schema : Schema) (hooks : Hooks) (zone : Calendar.Offset)
    (row : Row) : Except Fault Record := do
  let values ← schema.fields.mapM fun field =>
    match ((row.get? field.name).getD .null).fromStorage field.kind zone with
    | .ok value => .ok (hooks.onLoad field.name value)
    | .error cause => .error (.conversion field.name cause)
  pure { entity, schema, id := ((row.get? schema.idColumn).map Cell.toValue).getD .null, values }

namespace Store
open Session
variable {σ : Type}

def keepReadable (table : String) :
    List (Except Fault Record × Nat) → Session σ (List Record)
  | [] => pure []
  | (.ok record, _) :: rest => do
    let others ← keepReadable table rest
    pure (record :: others)
  | (.error fault, index) :: rest => do
    warn (.rowSkipped table index fault)
    keepReadable table rest

def search (entity : String) (search : Search) : Session σ (List Record) := do
  let schema ← schema entity
  let store ← get
  match ← perform (.query ((search.select schema).statement store.dialect)) with
  | .error message => do
    warn (.searchFailed schema.table message)
    pure []
  | .ok rows =>
    let read := Record.ofRow entity schema (store.hooks entity) store.dialect.zone
    keepReadable schema.table (rows.map read).zipIdx

theorem runOn_search (entity : String) (request : Search) (store : Store σ) :
    runOn (search entity request) store =
      match runOn (schema entity) store with
      | (.error fault, after) => (.error fault, after)
      | (.ok schema, known) =>
        match known.ask (.query ((request.select schema).statement known.dialect)) with
        | (.error message, after) =>
          (.ok [], after.record (.warning (.searchFailed schema.table message)))
        | (.ok rows, after) =>
          let read := Record.ofRow entity schema (known.hooks entity) known.dialect.zone
          runOn (keepReadable schema.table (rows.map read).zipIdx) after := by
  simp only [search, runOn_bind]
  rcases runOn (schema entity) store with ⟨_ | found, known⟩
  · rfl
  · simp only [runOn_get, perform, runOn_modifyGet]
    rcases known.ask _ with ⟨_ | _, _⟩ <;> rfl

/-- The matching records whose soft-delete flag is set.  A search that has a condition on the flag
is left as it is. -/
def searchActive (entity : String) (request : Search) : Session σ (List Record) := do
  let schema ← schema entity
  match schema.deletion with
  | .hard => throw (.misuse (.noSoftDelete schema.table))
  | .soft flag =>
    if request.conditions.containsField flag then search entity request
    else search entity (request.filter flag (.ofValue (.bool true)))

def searchOne (entity : String) (request : Search) : Session σ (Option Record) := do
  match ← search entity request with
  | [record] => pure (some record)
  | _ => pure none

def searchFirst (entity : String) (request : Search) : Session σ (Option Record) :=
  searchOne entity request.limitOne

def indexKey (value : Value) : String := if value.isNull then "" else value.text

def searchKnown (entity field : String) (request : Search) : Session σ (List Record) := do
  let schema ← schema entity
  ofMisuse (schema.checkFields [field])
  search entity request

def searchField (entity field : String) (request : Search) : Session σ (List Value) := do
  let records ← searchKnown entity field request
  ofMisuse (records.mapM fun record => record.get field)

def keyed (field : String) (records : List Record) : Except Misuse (List (String × Record)) :=
  records.mapM fun record => (record.get field).map fun value => (indexKey value, record)

/-- The matching records by the value of a field; the last one for each value counts. -/
def searchIndexed (entity field : String) (request : Search) : Session σ (SortedMap Record) := do
  let records ← searchKnown entity field request
  let pairs ← ofMisuse (keyed field records)
  pure (SortedMap.ofList pairs)

def searchGrouped (entity field : String) (request : Search) :
    Session σ (SortedMap (List Record)) := do
  let records ← searchKnown entity field request
  let pairs ← ofMisuse (keyed field records)
  pure (pairs.foldl
    (fun groups pair => groups.alter pair.1 fun group => group.getD [] ++ [pair.2]) [])

end Store

end RecordMapper
