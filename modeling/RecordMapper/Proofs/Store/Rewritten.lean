import RecordMapper.Proofs.Conversion.Stable
import RecordMapper.Proofs.Store.Batch
import RecordMapper.Proofs.Store.Identifier
import RecordMapper.Proofs.Store.Restored
import RecordMapper.Proofs.Store.Update
/-! # Rows that are written again

A cell that was written from a value is read as a value that is written to the same cell, so that a record
that is loaded and saved leaves its row as it is (`Store.rewrites_stored`). -/
set_option autoImplicit false
namespace RecordMapper

open Calendar (Offset)
open Session (runOn)

/-- The cell that counts for each field was written from a value. -/
def Row.Written (row : Row) (schema : Schema) (zone : Offset) : Prop :=
  ∀ field ∈ schema.fields, ∃ (value : Value) (cell : Cell), row.Counts field.name cell ∧
    value.Regular zone field.kind ∧ value.toStorage field.kind zone = .ok cell

def Row.cellsOf (row : Row) (schema : Schema) (names : List String) : List (String × Cell) :=
  names.map fun name => (schema.column name, (row.get? name).getD .null)

/-- A row that was written is read as a record that stores the same cells. -/
theorem Record.ofRow_written (entity : String) {schema : Schema} {zone : Offset}
    (wellFormed : schema.WellFormed) (minutes : zone.seconds % 60 = 0) {row : Row}
    (written : row.Written schema zone) :
    ∃ record, Record.ofRow entity schema {} zone row = .ok record ∧
      record.IsOf entity schema {} zone row ∧
      ∀ field ∈ schema.fields, record.Stores {} zone field.name
        (field.column, (row.get? field.name).getD .null) := by
  have each : ∀ field ∈ schema.fields, ∃ value, Record.loaded {} zone row field = .ok value ∧
      Paired zone field.kind ((row.get? field.name).getD .null) value := by
    intro field member
    obtain ⟨value, cell, counts, regular, stored⟩ := written field member
    obtain ⟨read, paired, -⟩ := Value.exists_paired minutes regular stored
    refine ⟨read, loaded_eq_ok_iff.mpr ⟨cell, read, counts, paired.reads, rfl⟩, ?_⟩
    rw [counts.get?]
    exact paired
  obtain ⟨values, read, paired⟩ := mapM_ok _ _ schema.fields each
  have ofRow : Record.ofRow entity schema {} zone row = .ok
      { entity, schema, id := ((row.get? schema.idColumn).map Cell.toValue).getD .null, values } := by
    rw [ofRow_eq_map, read]
    rfl
  refine ⟨_, ofRow, ofRow_eq_ok_iff.mp ofRow, fun field member => ?_⟩
  obtain ⟨index, position, place⟩ := wellFormed.position?_name member
  obtain ⟨value, there, pair⟩ := getElem?_of_forall₂ paired place
  refine ⟨field, value, wellFormed.field?_name member, ?_, rfl, pair.writes⟩
  simp [Record.value?, Record.read, position, there]

namespace Store

/-- What a field stores, it reads as a value of its own variant, or as `NULL` if it was `NULL`, and this
value it stores in the same way.  So a record that is loaded from such a row and saved with any of its
fields writes the cells of the row to their columns. -/
theorem rewrites_stored {zone : Offset} (minutes : zone.seconds % 60 = 0) :
    (∀ kind (value : Value) cell, value.Regular zone kind → value.toStorage kind zone = .ok cell →
      ∃ read, cell.fromStorage kind zone = .ok read ∧ (read.isNull = true ↔ value.isNull = true) ∧
        (value.isNull = false → read.kind? = some kind) ∧ read.toStorage kind zone = .ok cell) ∧
    ∀ (declaration : Declaration) (schema : Schema), declaration.schema = .ok schema →
      ∀ (entity : String) (row : Row), row.Written schema zone →
      (∃ cell, row.Counts schema.idColumn cell ∧ cell.isNull = false) →
      ∃ record, Record.ofRow entity schema {} zone row = .ok record ∧
        ∀ (σ : Type) (store : Store σ), store.hooks entity = {} → store.dialect.zone = zone →
          ∀ names, (∀ name ∈ record.requested names, name ∈ schema.fields.map Field.name) →
            record.requested names ≠ [] →
            ∃ succeeded, store.Called (runOn (save record names) store).2
              [(.exec ((record.updateOf (row.cellsOf schema (record.requested names).eraseDups)).statement
                store.dialect), succeeded)] := by
  constructor
  · intro kind value cell regular stored
    obtain ⟨read, paired, null⟩ := Value.exists_paired minutes regular stored
    refine ⟨read, paired.reads, null, fun present => paired.kind? ?_, paired.writes⟩
    exact Bool.eq_false_iff.mpr fun shown => Bool.eq_false_iff.mp present (null.mp shown)
  · intro declaration schema valid entity row written identified
    have wellFormed := declaration.wellFormed_schema valid
    obtain ⟨record, ofRow, isOf, stores⟩ := Record.ofRow_written entity wellFormed minutes written
    obtain ⟨cell, counts, present⟩ := identified
    refine ⟨record, ofRow, fun σ store plain same names fields some' => ?_⟩
    obtain ⟨ofEntity, rfl, ⟨other, again, identifier⟩, -⟩ := isOf
    obtain rfl : other = cell := again.get?.symm.trans counts.get?
    have shown : record.id.isNull = false := by
      rw [identifier]
      cases other <;> first | rfl | cases present
    have each : List.Forall₂ (record.Stores {} zone) (record.requested names).eraseDups
        (row.cellsOf record.schema (record.requested names).eraseDups) := by
      rw [Row.cellsOf, List.forall₂_map_right_iff, List.forall₂_same]
      intro name member
      obtain ⟨field, inside, rfl⟩ := List.mem_map.mp (fields name (List.mem_eraseDups.mp member))
      rw [Schema.column_of_field? (wellFormed.field?_name inside)]
      exact stores field inside
    have given : record.update? {} zone names = .ok (some (record.updateOf _)) :=
      (Record.update?_eq_some_iff valid).mpr ⟨shown, some', _, each, rfl⟩
    rw [← ofEntity] at plain
    rw [← plain, ← same] at given
    exact called_save given

def events : Declaration where
  table := "events"
  fields := [("at", some "timestamp"), ("note", some "json"), ("count", some "int")]
  renames := [("at", "happened_at")]

def eventsSchema : Schema where
  table := "events"
  idColumn := "id"
  fields := [⟨"at", .timestamp, "happened_at"⟩, ⟨"note", .structured, "note"⟩, ⟨"count", .int, "count"⟩]
  saveFields := ["at", "note", "count"]
  groupBy := []
  deletion := .hard

def eventRow : Row :=
  [("id", .int 7), ("at", .str "2024-02-29 05:30:11.500000"), ("note", .str "true"), ("count", .int 12)]

def eventStore : Store Unit :=
  Store.new (answering [eventRow]) () { Sql.Dialect.standard with zone := ⟨19800, by decide⟩ }
    (Catalog.ofEntities fun _ => { declaration := events })

def strayLeap : Calendar.Timestamp := ⟨1709164810, 1500000700, by decide, .utc⟩

theorem regular_strayLeap :
    (Value.timestamp strayLeap).Regular ⟨19800, by decide⟩ .timestamp := by
  refine ⟨?_, nofun⟩
  rintro - t same
  obtain rfl := Value.timestamp.inj same
  exact ⟨by decide, by decide⟩

theorem written_events : eventRow.Written eventsSchema ⟨19800, by decide⟩ := by
  intro field member
  simp only [eventsSchema, List.mem_cons, List.not_mem_nil, or_false] at member
  have counts : ∀ {name : String} {cell : Cell}, (eventRow.get? name).getD .null = cell →
      eventRow.Counts name cell := Row.counts_iff.mpr
  rcases member with rfl | rfl | rfl
  · exact ⟨.timestamp strayLeap, _, counts rfl, regular_strayLeap, by decide +kernel⟩
  · exact ⟨.bool true, _, counts rfl, ⟨nofun, fun _ => ⟨.bool true, by decide⟩⟩, rfl⟩
  · exact ⟨.str " 12 ", _, counts rfl, ⟨nofun, nofun⟩, rfl⟩

theorem rewrites_stored_events :
    let zone : Offset := ⟨19800, by decide⟩
    zone.seconds % 60 = 0 ∧ (Value.timestamp strayLeap).Regular zone .timestamp ∧
      (∃ read, (Cell.str "2024-02-29 05:30:11.500000").fromStorage .timestamp zone = .ok read ∧
        read.kind? = some .timestamp ∧
        read.toStorage .timestamp zone = .ok (.str "2024-02-29 05:30:11.500000")) ∧
      events.schema = .ok eventsSchema ∧ eventRow.Written eventsSchema zone ∧
      ∃ record, Record.ofRow "Event" eventsSchema {} zone eventRow = .ok record ∧
        ∃ succeeded, eventStore.Called (runOn (save record none) eventStore).2
          [(.exec ((record.updateOf [("happened_at", .str "2024-02-29 05:30:11.500000"),
            ("note", .str "true"), ("count", .int 12)]).statement eventStore.dialect), succeeded)] := by
  intro zone
  have minutes : zone.seconds % 60 = 0 := rfl
  have valid : events.schema = .ok eventsSchema := rfl
  obtain ⟨stable, rewrites⟩ := rewrites_stored minutes
  obtain ⟨read, loaded, -, kind, stored⟩ := stable .timestamp (.timestamp strayLeap)
    (.str "2024-02-29 05:30:11.500000") regular_strayLeap (by decide +kernel)
  obtain ⟨record, ofRow, saves⟩ := rewrites events eventsSchema valid "Event" eventRow written_events
    ⟨.int 7, Row.counts_iff.mpr rfl, rfl⟩
  have requested : record.requested none = ["at", "note", "count"] := by
    rw [Record.requested, (Record.ofRow_eq_ok_iff.mp ofRow).ofSchema]
    rfl
  have called := saves Unit eventStore rfl rfl none (by rw [requested]; decide)
    (by rw [requested]; decide)
  rw [requested] at called
  exact ⟨minutes, regular_strayLeap, ⟨read, loaded, kind rfl, stored⟩, valid, written_events, record,
    ofRow, called⟩

end Store

end RecordMapper
