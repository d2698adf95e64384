import RecordMapper.Proofs.Store.Found
import RecordMapper.Proofs.Store.Shown
import RecordMapper.Proofs.Store.Written
/-! # Records found as they were created

A row from which every field is read as the value that was written into it is read as the record
(`Record.ofRow_restores`).  So a search that returns the row of a created record finds the record again
(`search_restores_created`). -/
set_option autoImplicit false
namespace RecordMapper

open Calendar (Offset)
open Session (runOn)

def Record.Restores (record : Record) (values : Values) (schema : Schema) : Prop :=
  ∀ field ∈ schema.fields, ∃ value,
    record.value? field.name = some value ∧ (values.given field).Same value

def Row.read (row : Row) (zone : Offset) (field : Field) : Except Fault Value :=
  (((row.get? field.name).getD .null).fromStorage field.kind zone).mapError
    (Fault.conversion field.name)

theorem Record.ofRow_eq_read (entity : String) (schema : Schema) (zone : Offset) (row : Row) :
    Record.ofRow entity schema {} zone row = (schema.fields.mapM (row.read zone)).map fun values =>
      { entity, schema, id := ((row.get? schema.idColumn).map Cell.toValue).getD .null, values } := by
  have fields : Record.ofRow entity schema {} zone row = (do
      let values ← schema.fields.mapM (row.read zone)
      pure
        { entity, schema, id := ((row.get? schema.idColumn).map Cell.toValue).getD .null
          values }) := by
    unfold Record.ofRow
    refine congrArg (· >>= _) (congrArg (List.mapM · schema.fields) (funext fun field => ?_))
    unfold Row.read
    cases ((row.get? field.name).getD .null).fromStorage field.kind zone with
    | error cause => rfl
    | ok value => rfl
  rw [fields]
  cases schema.fields.mapM (row.read zone) with
  | error fault => rfl
  | ok values => rfl

theorem Record.ofRow_restores (entity : String) {schema : Schema} {zone : Offset}
    (wellFormed : schema.WellFormed) (minutes : zone.seconds % 60 = 0) {values : Values}
    (accepts : schema.Accepts zone values) {row : Row} {id : Int64} {cells : Field → Cell}
    (identifier : row.get? schema.idColumn = some (.int id))
    (shown : ∀ field ∈ schema.fields, row.get? field.name = some (cells field))
    (stored : ∀ field ∈ schema.fields,
      (values.given field).toStorage field.kind zone = .ok (cells field)) :
    ∃ record, Record.ofRow entity schema {} zone row = .ok record ∧ record.id = .int id ∧
      record.Restores values schema := by
  have each : ∀ field ∈ schema.fields, ∃ value,
      row.read zone field = .ok value ∧ (values.given field).Same value := by
    intro field member
    obtain ⟨cell, restored, written, read, same⟩ :=
      (accepts.given_fits wellFormed member).restored minutes
    obtain rfl := Except.ok.inj (written.symm.trans (stored field member))
    refine ⟨restored, ?_, same⟩
    rw [Row.read, shown field member, Option.getD_some, read]
    rfl
  obtain ⟨found, read, same⟩ := mapM_ok _ _ schema.fields each
  refine ⟨{ entity, schema, id := .int id, values := found }, ?_, rfl, ?_⟩
  · rw [ofRow_eq_read, read, identifier]
    rfl
  · intro field member
    obtain ⟨index, position, place⟩ := wellFormed.position?_name member
    obtain ⟨value, there, equal⟩ := getElem?_of_forall₂ same place
    refine ⟨value, ?_, equal⟩
    simp [Record.value?, Record.read, position, there]

namespace Store
variable {σ : Type}

/-- A search finds what can be read of the rows that answer it. -/
theorem search_finds (entity : String) (request : Search) (store : Store σ) {schema : Schema}
    (known : store.registry.get? entity = some (.ok schema)) {answer : List Row} {later : σ}
    (replied : store.driver (.query ((request.select schema).statement store.dialect))
      store.backend = (.ok answer, later))
    {row : Row} (member : row ∈ answer) {record : Record}
    (read : Record.ofRow entity schema (store.hooks entity) store.dialect.zone row = .ok record) :
    ∃ found, (runOn (search entity request) store).1 = .ok found ∧ record ∈ found := by
  have isRead := List.mem_map_of_mem
    (f := Record.ofRow entity schema (store.hooks entity) store.dialect.zone) member
  rw [read] at isRead
  obtain ⟨index, place⟩ := List.mem_iff_getElem?.mp isRead
  rw [runOn_search, schema_of_registry store known]
  dsimp only
  rw [ask_of_reply store replied]
  dsimp only
  obtain ⟨kept, -⟩ := keepReadable_spec schema.table
    (answer.map (Record.ofRow entity schema (store.hooks entity) store.dialect.zone)).zipIdx
    (({ store with backend := later } : Store σ).record
      (.call (.query ((request.select schema).statement store.dialect)) true))
  refine ⟨_, kept, List.mem_filterMap.mpr ⟨(.ok record, index), ?_, rfl⟩⟩
  exact List.mk_mem_zipIdx_iff_getElem?.mpr place

theorem create_ok (entity : String) (values : Values) (store : Store σ) {schema : Schema}
    (wellFormed : schema.WellFormed) (known : (runOn (Store.schema entity) store).1 = .ok schema)
    (hooks : store.hooks entity = {}) (minutes : store.dialect.zone.seconds % 60 = 0)
    {table : Table} {rows : σ → List StoredRow}
    (kept : table.IsKept store.driver store.dialect rows) (stored : schema.IsStoredIn table)
    (accepts : schema.Accepts store.dialect.zone values) :
    ∃ id cells after, runOn (create entity values) store =
        (.ok (Record.ofValues entity schema (.int id) values), after) ∧
      List.Forall₂ (schema.Holds store.dialect.zone) values.entries cells ∧
      rows after.backend = rows store.backend ++ [table.stored id cells] ∧
      after.driver = store.driver ∧ after.dialect = store.dialect ∧
      after.hooks entity = {} ∧ after.registry.get? entity = some (.ok schema) := by
  obtain ⟨after, looked, agrees, registry⟩ := exists_known known
  obtain ⟨cells, newRow, holds⟩ := Schema.newRow_ok wellFormed minutes accepts
  have inserted := Sql.inserted?_statement ⟨schema.table, cells⟩ kept.legible
  rw [← stored.name] at inserted
  have inside : ∀ entry ∈ cells, entry.1 ∈ table.columns := by
    intro entry member
    obtain ⟨field, fieldMember, column⟩ := Schema.columns_holds holds entry member
    rw [column]
    exact stored.columns field fieldMember
  obtain ⟨id, later, replied, rowsLater⟩ := kept.inserts _ store.backend cells inserted inside
  rw [runOn_create, looked]
  have sameHooks : after.hooks entity = {} := (agrees.hooks entity).trans hooks
  obtain ⟨driver, backend, dialect, -, -, -⟩ := agrees
  rw [← driver, ← backend, ← dialect, stored.name] at replied
  have asked := ask_of_reply after replied
  rw [← dialect] at newRow
  let sent : Call := .insert (Sql.Insert.statement ⟨schema.table, cells⟩ after.dialect)
  refine ⟨id, cells, ({ after with backend := later } : Store σ).record (.call sent true), ?_,
    holds, rowsLater, driver, dialect, sameHooks, registry⟩
  dsimp only
  rw [sameHooks, newRow]
  dsimp only
  rw [asked]
  dsimp only
  rw [Record.setFields_blank wellFormed entity (.int id) accepts.checkFields
    (accepts.idColumn_notMem wellFormed)]
  rfl

/-- A record is created, and whatever search returns its row finds it again: with the same identifier
and, in each field, the value that was given. -/
theorem search_restores_created (entity : String) (values : Values) (store : Store σ)
    {declaration : Declaration} {schema : Schema} (valid : declaration.schema = .ok schema)
    (known : (runOn (Store.schema entity) store).1 = .ok schema)
    (hooks : store.hooks entity = {}) (minutes : store.dialect.zone.seconds % 60 = 0)
    {table : Table} {rows : σ → List StoredRow}
    (kept : table.IsKept store.driver store.dialect rows) (stored : schema.IsStoredIn table)
    (accepts : schema.Accepts store.dialect.zone values) :
    ∃ created after row, runOn (create entity values) store = (.ok created, after) ∧
      rows after.backend = rows store.backend ++ [row] ∧
      ∀ request state,
        table.Answers store.driver store.dialect ((request.select schema).statement store.dialect)
          state row →
        ∃ found, (runOn (search entity request) { after with backend := state }).1 = .ok found ∧
          ∃ record ∈ found, record.id = created.id ∧ record.Restores values schema := by
  have wellFormed := declaration.wellFormed_schema valid
  obtain ⟨id, cells, after, created, holds, rowsAfter, driver, dialect, sameHooks, registry⟩ :=
    create_ok entity values store wellFormed known hooks minutes kept stored accepts
  refine ⟨_, after, table.stored id cells, created, rowsAfter, fun request state answers => ?_⟩
  obtain ⟨outputs, answer, later, selected, replied, member⟩ := answers
  have legible := kept.legible
  rw [← dialect] at legible selected replied minutes accepts holds
  rw [← driver] at replied
  obtain ⟨source, list⟩ := Schema.outputs_select request stored.plain
  have reads := (request.select schema).selected?_statement
    (Schema.isOutput_select request stored.plain) legible selected
  obtain rfl : outputs = (request.select schema).outputs := congrArg Sql.Selection.outputs reads
  obtain ⟨identifier, fields⟩ := Schema.get?_shown wellFormed stored (table.stored id cells) list
  have idCell : table.stored id cells schema.idColumn = .int id := if_pos stored.idColumn.symm
  have fieldCell : ∀ field ∈ schema.fields,
      table.stored id cells field.column = (cells.lookup field.column).getD .null := by
    intro field fieldMember
    refine if_neg fun same => stored.apart field fieldMember ?_
    rw [same, stored.idColumn]
  rw [idCell] at identifier
  obtain ⟨record, read, sameId, restores⟩ := Record.ofRow_restores entity wellFormed minutes accepts
    identifier fields fun field fieldMember => by
      rw [fieldCell field fieldMember]
      exact Schema.toStorage_lookup wellFormed stored.distinct holds fieldMember
  rw [← sameHooks] at read
  obtain ⟨found, ran, inside⟩ :=
    search_finds entity request { after with backend := state } registry replied member read
  exact ⟨found, ran, record, inside, sameId, restores⟩

/-- People whose first name is stored as the last one, and the other way round. -/
def crossed : Declaration where
  table := "people"
  fields := [("first", none), ("last", none), ("born", some "timestamp"), ("notes", some "json")]
  renames := [("first", "last"), ("last", "first")]

def crossedSchema : Schema where
  table := "people"
  idColumn := "id"
  fields := [⟨"first", .string, "last"⟩, ⟨"last", .string, "first"⟩, ⟨"born", .timestamp, "born"⟩,
    ⟨"notes", .structured, "notes"⟩]
  saveFields := ["first", "last", "born", "notes"]
  groupBy := []
  deletion := .hard

def crossedTable : Table := ⟨"people", "id", ["id", "first", "last", "born", "notes"], by decide⟩

def crossedStore : Store (List StoredRow) :=
  Store.new (crossedTable.backend '\x60') [] .standard
    (Catalog.ofEntities fun _ => { declaration := crossed })

def crossedValues : Values :=
  ⟨[("first", .str "Ada"), ("born", .timestamp ⟨-4862000000, 5000, by decide, .utc⟩),
    ("notes", .json (.object [("years", .array [.number (.int (-1)), .null])]))], by decide⟩

theorem isStoredIn_crossed : crossedSchema.IsStoredIn crossedTable := by
  have first : Sql.IsPlainName "first" := ⟨by decide, by decide, by decide, by decide, by decide⟩
  have last : Sql.IsPlainName "last" := ⟨by decide, by decide, by decide, by decide, by decide⟩
  have born : Sql.IsPlainName "born" := ⟨by decide, by decide, by decide, by decide, by decide⟩
  have notes : Sql.IsPlainName "notes" := ⟨by decide, by decide, by decide, by decide, by decide⟩
  refine ⟨rfl, rfl, by decide, by decide, by decide, fun field member => ?_⟩
  simp only [crossedSchema, List.mem_cons, List.not_mem_nil, or_false] at member
  rcases member with rfl | rfl | rfl | rfl
  · exact ⟨first, last⟩
  · exact ⟨last, first⟩
  · exact ⟨born, born⟩
  · exact ⟨notes, notes⟩

theorem accepts_crossed : crossedSchema.Accepts .utc crossedValues := by
  have storable : (Calendar.Timestamp.mk (-4862000000) 5000 (by decide) .utc).Storable .utc :=
    ⟨by decide, by decide, by decide⟩
  have items : ∀ item ∈ [Json.number (.int (-1)), .null], Json.Readable 125 item := by
    intro item member
    rcases List.mem_cons.mp member with rfl | member
    · exact .negative 125 0 (by decide)
    · obtain rfl := List.mem_singleton.mp member
      exact .null 125
  have members : ∀ member ∈ [("years", Json.array [.number (.int (-1)), .null])],
      Json.Readable 126 member.2 := by
    intro pair member
    obtain rfl := List.mem_singleton.mp member
    exact .array 125 _ items
  have sorted : SortedMap.Sorted [("years", Json.array [.number (.int (-1)), .null])] :=
    List.pairwise_singleton _ _
  have readable := Json.Readable.object 126 _ sorted members
  intro entry member
  rcases List.mem_cons.mp member with rfl | member
  · exact ⟨⟨"first", .string, "last"⟩, rfl, .str "Ada"⟩
  rcases List.mem_cons.mp member with rfl | member
  · exact ⟨⟨"born", .timestamp, "born"⟩, rfl, .timestamp _ storable (by decide)⟩
  · obtain rfl := List.mem_singleton.mp member
    exact ⟨⟨"notes", .structured, "notes"⟩, rfl, .json _ readable⟩

theorem search_restores_created_crossed :
    ∃ created after found, runOn (create "Person" crossedValues) crossedStore = (.ok created, after) ∧
      (runOn (search "Person" {}) after).1 = .ok found ∧
      ∃ record ∈ found, record.id = created.id ∧ record.Restores crossedValues crossedSchema := by
  have valid : crossed.schema = .ok crossedSchema := by rfl
  have known : (runOn (Store.schema "Person") crossedStore).1 = .ok crossedSchema := by rfl
  have kept : crossedTable.IsKept crossedStore.driver .standard id :=
    crossedTable.isKept_backend .standard (by decide)
  obtain ⟨created, after, row, ran, rows, finds⟩ :=
    search_restores_created "Person" crossedValues crossedStore valid known rfl (by decide) kept
      isStoredIn_crossed accepts_crossed
  have selected : ((({} : Search).select crossedSchema).statement .standard).selected? '\x60' =
      some ⟨"people", [.every (some "people"), .named ⟨some "people", "last"⟩ "first",
        .named ⟨some "people", "first"⟩ "last"]⟩ := by
    decide
  have stored : row ∈ after.backend := by
    rw [show after.backend = _ from rows]
    simp
  have answers := crossedTable.answers_backend .standard selected stored
  obtain ⟨found, searched, record, member, same, restores⟩ := finds {} after.backend answers
  exact ⟨created, after, found, ran, searched, record, member, same, restores⟩

end Store

end RecordMapper
