import RecordMapper.Proofs.Calendar.Field
import RecordMapper.Proofs.Conversion.Loaded
import RecordMapper.Proofs.Store.Batch
import RecordMapper.Proofs.Store.Views
/-! # The classes of a grouped search

What a search finds holds what the field has read, as the hooks of the entity adjusted it
(`Store.loaded_of_search`).  Two of the records stand in one group if and only if their values are
indexed under one text, and so it is with the records of which the index keeps the last.  Of values as
the field reads them these are the values that are shown alike, with `NULL` and the empty text in one
class (`Store.groups_are_classes`): to be equal is not enough, as for one point in time in two offsets
or for the two zeros, and it is not needed either, as for `NULL` (`Store.null_grouped_with_empty`). -/
set_option autoImplicit false
namespace RecordMapper

open Session (runOn)

theorem Record.IsOf.get {entity : String} {schema : Schema} {hooks : Hooks} {zone : Calendar.Offset}
    {row : Row} {record : Record} (isOf : record.IsOf entity schema hooks zone row)
    (wellFormed : schema.WellFormed) {field : Field} (declared : field ∈ schema.fields) :
    ∃ read, read.Loaded zone field.kind ∧ record.get field.name = .ok (hooks.onLoad field.name read) := by
  obtain ⟨rfl, rfl, -, fields⟩ := isOf
  obtain ⟨index, position, placed⟩ := wellFormed.position?_name declared
  obtain ⟨value, held, cell, read, -, stored, adjusted⟩ := getElem?_of_forall₂ fields placed
  refine ⟨read, Cell.loaded_of_fromStorage stored, ?_⟩
  rw [Record.get, Schema.place, if_neg (wellFormed.apart field declared), position, ← adjusted]
  show Except.ok ((record.values[index]?).getD .null) = _
  rw [held]
  rfl

namespace Store
variable {σ : Type} {entity field : String} {request : Search} {store : Store σ} {schema : Schema}

theorem loaded_of_search (wellFormed : schema.WellFormed)
    (known : (runOn (Store.schema entity) store).1 = .ok schema) {found : List Record}
    (searched : (runOn (search entity request) store).1 = .ok found) {field : Field}
    (declared : field ∈ schema.fields) :
    ∀ record ∈ found, ∃ read, read.Loaded store.dialect.zone field.kind ∧
      record.get field.name = .ok ((store.hooks entity).onLoad field.name read) := by
  intro record member
  obtain ⟨row, read⟩ := ofRow_of_search known searched record member
  exact (Record.ofRow_eq_ok_iff.mp read).get wellFormed declared

theorem runOn_searchGrouped {found : List Record} {after : Store σ}
    (searched : runOn (searchKnown entity field request) store = (.ok found, after))
    (has : ∀ record ∈ found, ∃ value, record.get field = .ok value) :
    runOn (searchGrouped entity field request) store =
      (.ok (SortedMap.group (found.map fun record => (record.indexedUnder field, record))), after) := by
  rw [searchGrouped, Session.runOn_bind, searched]
  dsimp only
  rw [keyed_eq has]
  rfl

theorem runOn_searchIndexed {found : List Record} {after : Store σ}
    (searched : runOn (searchKnown entity field request) store = (.ok found, after))
    (has : ∀ record ∈ found, ∃ value, record.get field = .ok value) :
    runOn (searchIndexed entity field request) store =
      (.ok (SortedMap.ofList (found.map fun record => (record.indexedUnder field, record))), after) := by
  rw [searchIndexed, Session.runOn_bind, searched]
  dsimp only
  rw [keyed_eq has]
  rfl

/-- Two records that were given stand in one group if they are indexed under one text. -/
theorem exists_group_iff {found : List Record} {a b : Record} (inside : a ∈ found)
    (inside' : b ∈ found) :
    (∃ key group, (key, group) ∈ SortedMap.group
        (found.map fun record => (record.indexedUnder field, record)) ∧ a ∈ group ∧ b ∈ group) ↔
      a.indexedUnder field = b.indexedUnder field := by
  constructor
  · rintro ⟨key, group, grouped, first, second⟩
    obtain ⟨rfl, -⟩ := SortedMap.mem_group.mp grouped
    rw [valuesOf_map, List.mem_filter, decide_eq_true_eq] at first second
    exact first.2.trans second.2.symm
  · intro same
    have first : a ∈ found.filter fun record => record.indexedUnder field = b.indexedUnder field :=
      List.mem_filter.mpr ⟨inside, decide_eq_true same⟩
    have second : b ∈ found.filter fun record => record.indexedUnder field = b.indexedUnder field :=
      List.mem_filter.mpr ⟨inside', decide_eq_true rfl⟩
    refine ⟨b.indexedUnder field, _, SortedMap.mem_group.mpr ⟨rfl, ?_⟩, ?_⟩
    · rw [valuesOf_map]
      exact List.ne_nil_of_mem second
    · rw [valuesOf_map]
      exact ⟨first, second⟩

/-- Under a key the last of the records is kept that are indexed under it. -/
theorem mem_index_iff {found : List Record} {key : String} {last : Record} :
    (key, last) ∈ SortedMap.ofList (found.map fun record => (record.indexedUnder field, record)) ↔
      (found.filter fun record => record.indexedUnder field = key).getLast? = some last := by
  rw [SortedMap.mem_ofList, valuesOf_map]

theorem exists_indexed_iff {found : List Record} {a b : Record} (inside : a ∈ found) :
    (∃ key last, (key, last) ∈ SortedMap.ofList
        (found.map fun record => (record.indexedUnder field, record)) ∧
        a.indexedUnder field = key ∧ b.indexedUnder field = key) ↔
      a.indexedUnder field = b.indexedUnder field := by
  constructor
  · rintro ⟨key, last, -, first, second⟩
    exact first.trans second.symm
  · intro same
    have kept : a ∈ found.filter fun record => record.indexedUnder field = b.indexedUnder field :=
      List.mem_filter.mpr ⟨inside, decide_eq_true same⟩
    exact ⟨_, _, mem_index_iff.mpr (List.getLast?_eq_some_getLast (List.ne_nil_of_mem kept)), same, rfl⟩

/-- A search, with its records grouped and indexed by a declared field.  The index keeps, under each
key, the last of the records that are indexed under it.  Each record holds what the field has read, as
the hooks of the entity adjusted it.  Two records stand in one group, and compete for one key of the
index, if and only if their values are indexed under one text.  NaN aside, and unless the hooks have
made another sort of value of it, this is so if the values are shown alike, or one is `NULL` and the
other the empty text.  In a zone of whole minutes, which every configured zone is, values are shown
alike if they are equal, and written with the same signs and the same offset. -/
theorem groups_are_classes {declaration : Declaration} {schema : Schema}
    (valid : declaration.schema = .ok schema) (entity : String) (request : Search) (store : Store σ)
    (known : (runOn (Store.schema entity) store).1 = .ok schema) (field : Field)
    (declared : field ∈ schema.fields) :
    let zone := store.dialect.zone
    ∃ found groups indexed after,
      runOn (search entity request) store = (.ok found, after) ∧
      runOn (searchGrouped entity field.name request) store = (.ok groups, after) ∧
      runOn (searchIndexed entity field.name request) store = (.ok indexed, after) ∧
      (∀ key last, (key, last) ∈ indexed ↔
        (found.filter fun record => record.indexedUnder field.name = key).getLast? = some last) ∧
      (∀ record ∈ found, ∃ read, read.Loaded zone field.kind ∧
        record.get field.name = .ok ((store.hooks entity).onLoad field.name read)) ∧
      (∀ a ∈ found, ∀ b ∈ found, ∀ u v,
        a.get field.name = .ok u → b.get field.name = .ok v →
          ((∃ key group, (key, group) ∈ groups ∧ a ∈ group ∧ b ∈ group) ↔
            indexKey u = indexKey v) ∧
          ((∃ key last, (key, last) ∈ indexed ∧ a.indexedUnder field.name = key ∧
              b.indexedUnder field.name = key) ↔ indexKey u = indexKey v) ∧
          (u.Loaded zone field.kind → v.Loaded zone field.kind → u.isNaN = false → v.isNaN = false →
            (indexKey u = indexKey v ↔
              u.Alike v ∨ u = .null ∧ v = .str "" ∨ u = .str "" ∧ v = .null) ∧
            (zone.seconds % 60 = 0 →
              (u.Alike v ↔ (u == v) = true ∧ u.nuance = v.nuance)))) ∧
      ∀ config : Config, config.zone = .ok zone → zone.seconds % 60 = 0 := by
  intro zone
  have wellFormed := declaration.wellFormed_schema valid
  have named : schema.knows field.name = true :=
    (wellFormed.knows_iff.mpr ⟨field, wellFormed.field?_name declared⟩).1
  obtain ⟨found, after, searched, -⟩ := exists_found request known
  have result : (runOn (search entity request) store).1 = .ok found := congrArg Prod.fst searched
  have has := get_of_search known result named
  have asked := (runOn_searchKnown request known named).trans searched
  refine ⟨found, _, _, after, searched, runOn_searchGrouped asked has, runOn_searchIndexed asked has,
    fun key last => mem_index_iff, loaded_of_search wellFormed known result declared, ?_,
    fun config => Config.zone_minutes⟩
  intro a inside b inside' u v got got'
  have under : a.indexedUnder field.name = indexKey u := by
    rw [Record.indexedUnder, got]
    rfl
  have under' : b.indexedUnder field.name = indexKey v := by
    rw [Record.indexedUnder, got']
    rfl
  rw [exists_group_iff inside inside', exists_indexed_iff inside, under, under']
  refine ⟨.rfl, .rfl, fun loaded loaded' number number' => ?_⟩
  exact ⟨loaded.indexKey_eq_iff loaded' number number',
    fun minutes => loaded.alike_iff minutes loaded' number⟩

def readings : Declaration where
  table := "readings"
  fields := [("note", none), ("taken", some "timestamp"), ("level", some "float")]

def readingsSchema : Schema where
  table := "readings"
  idColumn := "id"
  fields := [⟨"note", .string, "note"⟩, ⟨"taken", .timestamp, "taken"⟩, ⟨"level", .float, "level"⟩]
  saveFields := ["note", "taken", "level"]
  groupBy := []
  deletion := .hard

def twoReadings : List Row :=
  [[("id", .int 1), ("note", .null), ("taken", .str "2024-05-01T12:00:00Z"), ("level", .str "0")],
    [("id", .int 2), ("note", .str ""), ("taken", .str "2024-05-01T14:00:00+02:00"),
      ("level", .str "-0")]]

def readingStore : Store Unit :=
  Store.new (answering twoReadings) () .standard
    (Catalog.ofEntities fun _ => { declaration := readings })

theorem groups_are_classes_readings :
    readings.schema = .ok readingsSchema ∧
      (runOn (Store.schema "Reading") readingStore).1 = .ok readingsSchema ∧
      ⟨"note", .string, "note"⟩ ∈ readingsSchema.fields ∧
      ∃ a b groups, (runOn (search "Reading" {}) readingStore).1 = .ok [a, b] ∧
        (runOn (searchGrouped "Reading" "note" {}) readingStore).1 = .ok groups ∧
        a.get "note" = .ok .null ∧ b.get "note" = .ok (.str "") ∧
        ∃ key group, (key, group) ∈ groups ∧ a ∈ group ∧ b ∈ group := by
  have valid : readings.schema = .ok readingsSchema := rfl
  have known : (runOn (Store.schema "Reading") readingStore).1 = .ok readingsSchema := rfl
  have declared : ⟨"note", .string, "note"⟩ ∈ readingsSchema.fields := List.mem_cons_self ..
  obtain ⟨found, groups, indexed, after, searched, grouped, -, -, -, classes, -⟩ :=
    groups_are_classes valid "Reading" {} readingStore known _ declared
  obtain ⟨a, b, two, none, empty⟩ : ∃ a b, (runOn (search "Reading" {}) readingStore).1 = .ok [a, b] ∧
      a.get "note" = .ok .null ∧ b.get "note" = .ok (.str "") := ⟨_, _, rfl, rfl, rfl⟩
  obtain rfl : found = [a, b] := by
    rw [searched] at two
    exact Except.ok.inj two
  obtain ⟨together, -, told⟩ := classes a (by simp) b (by simp) .null (.str "") none empty
  obtain ⟨class_iff, -⟩ := told (.null .string) (.str "") rfl rfl
  exact ⟨valid, known, declared, a, b, groups, two, congrArg Prod.fst grouped, none, empty,
    together.mpr (class_iff.mpr (.inr (.inl ⟨rfl, rfl⟩)))⟩

/-- The notes are not equal, but the two readings are in one group, and only the second is indexed.  The
times are equal, and the levels are, but the readings are in two groups. -/
theorem classes_unlike_equality :
    ∃ a b, (runOn (search "Reading" {}) readingStore).1 = .ok [a, b] ∧
      a.id = .int 1 ∧ b.id = .int 2 ∧
      (∃ u v, a.get "note" = .ok u ∧ b.get "note" = .ok v ∧ (u == v) = false ∧
        u.isNaN = false ∧ v.isNaN = false) ∧
      (runOn (searchGrouped "Reading" "note" {}) readingStore).1 = .ok [("", [a, b])] ∧
      (runOn (searchIndexed "Reading" "note" {}) readingStore).1 = .ok [("", b)] ∧
      (∃ u v, a.get "taken" = .ok u ∧ b.get "taken" = .ok v ∧ (u == v) = true) ∧
      (runOn (searchGrouped "Reading" "taken" {}) readingStore).1 =
        .ok [("2024-05-01T12:00:00+00:00", [a]), ("2024-05-01T14:00:00+02:00", [b])] ∧
      (∃ u v, a.get "level" = .ok u ∧ b.get "level" = .ok v ∧ (u == v) = true) ∧
      (runOn (searchGrouped "Reading" "level" {}) readingStore).1 = .ok [("-0", [b]), ("0", [a])] := by
  refine ⟨_, _, rfl, rfl, rfl, ⟨_, _, rfl, rfl, rfl, rfl, rfl⟩, rfl, rfl, ⟨_, _, rfl, rfl, ?_⟩, ?_,
    ⟨_, _, rfl, rfl, ?_⟩, ?_⟩
  · decide +kernel
  · rfl
  · decide +kernel
  · rfl

end Store

end RecordMapper
