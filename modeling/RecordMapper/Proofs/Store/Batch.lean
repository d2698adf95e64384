import RecordMapper.Proofs.Store.Found
import RecordMapper.Proofs.Store.Table
/-! # The rows of a search

A search reads row by row.  What is a record of a row (`Record.IsOf`) and what fault a row has
(`Row.Refused`) depends on the row alone, and a list of rows comes to records and warnings that are
those of its rows (`Batch`).  So it is of every search (`Store.search_maps_rows`). -/
set_option autoImplicit false
namespace RecordMapper

open Calendar (Offset)
open Session (runOn)

/-! ## Cells -/

namespace Row
variable {row : Row} {name : String} {cell : Cell}

inductive Counts (row : Row) (name : String) : Cell → Prop
  | last (front back : Row) (cell : Cell) (shape : row = front ++ (name, cell) :: back)
      (only : name ∉ back.map Prod.fst) : Counts row name cell
  | absent (none : name ∉ row.map Prod.fst) : Counts row name .null

theorem Counts.get? (counts : row.Counts name cell) : (row.get? name).getD .null = cell := by
  cases counts with
  | last front back cell shape only =>
      have split : row = (front ++ [(name, cell)]) ++ back := by simp [shape]
      have here : Row.get? [(name, cell)] name = some cell :=
        get?_some (List.mem_singleton.mpr rfl) (by simp)
      rw [split, get?_append, get?_none only, get?_append, here]
      rfl
  | absent none =>
      rw [get?_none none]
      rfl

theorem exists_counts (row : Row) (name : String) : ∃ cell, row.Counts name cell := by
  induction row with
  | nil => exact ⟨.null, .absent (by simp)⟩
  | cons entry rest ih =>
      obtain ⟨other, cell⟩ := entry
      obtain ⟨found, counts⟩ := ih
      cases counts with
      | last front back found shape only =>
          exact ⟨found, .last ((other, cell) :: front) back found (by rw [shape]; rfl) only⟩
      | absent none =>
          by_cases same : other = name
          · subst same
            exact ⟨cell, .last [] rest cell rfl none⟩
          · refine ⟨.null, .absent ?_⟩
            rw [List.map_cons, List.mem_cons, not_or]
            exact ⟨Ne.symm same, none⟩

theorem counts_iff : row.Counts name cell ↔ (row.get? name).getD .null = cell := by
  constructor
  · exact Counts.get?
  · rintro rfl
    obtain ⟨cell, counts⟩ := exists_counts row name
    rw [counts.get?]
    exact counts

end Row

/-! ## Rows -/

section Rows
variable (entity : String) (schema : Schema) (hooks : Hooks) (zone : Offset)

/-- The record of a row: in each field what the hook makes of its cell, and the identifier cell as it
is. -/
structure Record.IsOf (row : Row) (record : Record) : Prop where
  ofEntity : record.entity = entity
  ofSchema : record.schema = schema
  identifier : ∃ cell, row.Counts schema.idColumn cell ∧ record.id = cell.toValue
  fields : List.Forall₂
    (fun field value => ∃ cell read, row.Counts field.name cell ∧
      cell.fromStorage field.kind zone = .ok read ∧ value = hooks.onLoad field.name read)
    schema.fields record.values

def Row.Rejects (row : Row) (field : Field) (cause : ConversionFault) : Prop :=
  ∃ cell, row.Counts field.name cell ∧ cell.fromStorage field.kind zone = .error cause

/-- The row cannot be read, for the first of the fields whose cells are rejected. -/
def Row.Refused (row : Row) (fault : Fault) : Prop :=
  ∃ front field back cause, schema.fields = front ++ field :: back ∧
    (∀ earlier ∈ front, ¬ ∃ cause, row.Rejects zone earlier cause) ∧
    row.Rejects zone field cause ∧ fault = .conversion field.name cause

end Rows

namespace Record
variable {entity : String} {schema : Schema} {hooks : Hooks} {zone : Offset} {row : Row}

def loaded (hooks : Hooks) (zone : Offset) (row : Row) (field : Field) : Except Fault Value :=
  match ((row.get? field.name).getD .null).fromStorage field.kind zone with
  | .ok value => .ok (hooks.onLoad field.name value)
  | .error cause => .error (.conversion field.name cause)

theorem ofRow_eq_map : ofRow entity schema hooks zone row =
    (schema.fields.mapM (loaded hooks zone row)).map fun values =>
      { entity, schema, id := ((row.get? schema.idColumn).map Cell.toValue).getD .null, values } := by
  show (schema.fields.mapM (loaded hooks zone row) >>= _) = _
  cases schema.fields.mapM (loaded hooks zone row) <;> rfl

theorem loaded_eq_ok_iff {field : Field} {value : Value} :
    loaded hooks zone row field = .ok value ↔ ∃ cell read, row.Counts field.name cell ∧
      cell.fromStorage field.kind zone = .ok read ∧ value = hooks.onLoad field.name read := by
  simp only [Row.counts_iff]
  constructor
  · intro done
    rw [loaded] at done
    split at done
    · next read stored => exact ⟨_, read, rfl, stored, (Except.ok.inj done).symm⟩
    · cases done
  · rintro ⟨cell, read, rfl, stored, rfl⟩
    rw [loaded, stored]

theorem loaded_eq_error_iff {field : Field} {fault : Fault} :
    loaded hooks zone row field = .error fault ↔
      ∃ cause, row.Rejects zone field cause ∧ fault = .conversion field.name cause := by
  simp only [Row.Rejects, Row.counts_iff]
  constructor
  · intro failed
    rw [loaded] at failed
    split at failed
    · cases failed
    · next cause stored => exact ⟨cause, ⟨_, rfl, stored⟩, (Except.error.inj failed).symm⟩
  · rintro ⟨cause, ⟨cell, rfl, stored⟩, rfl⟩
    rw [loaded, stored]

theorem loaded_ok_iff {field : Field} :
    (∃ value, loaded hooks zone row field = .ok value) ↔ ¬ ∃ cause, row.Rejects zone field cause := by
  constructor
  · rintro ⟨value, done⟩ ⟨cause, rejects⟩
    have failed : loaded hooks zone row field = .error (.conversion field.name cause) :=
      loaded_eq_error_iff.mpr ⟨cause, rejects, rfl⟩
    rw [done] at failed
    cases failed
  · intro accepted
    cases done : loaded hooks zone row field with
    | ok value => exact ⟨value, rfl⟩
    | error fault =>
        obtain ⟨cause, rejects, -⟩ := loaded_eq_error_iff.mp done
        exact absurd ⟨cause, rejects⟩ accepted

theorem identifier_of_counts (row : Row) (name : String) :
    ((row.get? name).map Cell.toValue).getD .null = ((row.get? name).getD .null).toValue := by
  cases row.get? name <;> rfl

theorem ofRow_eq_ok_iff {record : Record} : ofRow entity schema hooks zone row = .ok record ↔
    record.IsOf entity schema hooks zone row := by
  rw [ofRow_eq_map]
  constructor
  · intro read
    cases all : schema.fields.mapM (loaded hooks zone row) with
    | error fault =>
        rw [all] at read
        cases read
    | ok values =>
        rw [all] at read
        obtain rfl := Except.ok.inj read
        refine ⟨rfl, rfl, ⟨_, Row.counts_iff.mpr rfl, identifier_of_counts row _⟩, ?_⟩
        exact (mapM_eq_ok_iff.mp all).imp fun field value => loaded_eq_ok_iff.mp
  · rintro ⟨rfl, rfl, ⟨cell, counts, identifier⟩, fields⟩
    have all : record.schema.fields.mapM (loaded hooks zone row) = .ok record.values :=
      mapM_eq_ok_iff.mpr (fields.imp fun field value => loaded_eq_ok_iff.mpr)
    rw [all, identifier_of_counts, counts.get?, ← identifier]
    rfl

theorem ofRow_eq_error_iff {fault : Fault} : ofRow entity schema hooks zone row = .error fault ↔
    row.Refused schema zone fault := by
  have failed : ofRow entity schema hooks zone row = .error fault ↔
      schema.fields.mapM (loaded hooks zone row) = .error fault := by
    rw [ofRow_eq_map]
    cases schema.fields.mapM (loaded hooks zone row) with
    | error cause => exact ⟨fun same => congrArg _ (Except.error.inj same), fun same =>
        congrArg _ (Except.error.inj same)⟩
    | ok values => exact ⟨fun wrong => (by cases wrong), fun wrong => (by cases wrong)⟩
  rw [failed, mapM_eq_error_iff, Row.Refused]
  simp only [loaded_ok_iff, loaded_eq_error_iff]
  constructor
  · rintro ⟨front, field, back, shape, fine, cause, rejects, same⟩
    exact ⟨front, field, back, cause, shape, fine, rejects, same⟩
  · rintro ⟨front, field, back, cause, shape, fine, rejects, same⟩
    exact ⟨front, field, back, shape, fine, cause, rejects, same⟩

end Record

/-! ## Rows that cannot be read -/

/-- Only a number or a document is ever rejected. -/
theorem Cell.kind_of_rejected {cell : Cell} {kind : Kind} {zone : Offset} {cause : ConversionFault}
    (rejected : cell.fromStorage kind zone = .error cause) :
    kind = .int ∨ kind = .float ∨ kind = .structured := by
  unfold fromStorage at rejected
  split at rejected
  · cases rejected
  · cases kind with
    | int => exact .inl rfl
    | float => exact .inr (.inl rfl)
    | structured => exact .inr (.inr rfl)
    | bool | string => cases rejected
    | timestamp =>
        dsimp only at rejected
        split at rejected
        · cases rejected
        · cases rejected

namespace Row
variable {schema : Schema} {zone : Offset} {row other : Row}

theorem Rejects.kind {field : Field} {cause : ConversionFault} (rejects : row.Rejects zone field cause) :
    field.kind = .int ∨ field.kind = .float ∨ field.kind = .structured := by
  obtain ⟨cell, -, rejected⟩ := rejects
  exact Cell.kind_of_rejected rejected

theorem exists_refused_iff : (∃ fault, row.Refused schema zone fault) ↔
    ∃ field ∈ schema.fields, ∃ cause, row.Rejects zone field cause := by
  constructor
  · rintro ⟨fault, front, field, back, cause, shape, -, rejects, -⟩
    exact ⟨field, by simp [shape], cause, rejects⟩
  · rintro ⟨field, member, cause, rejects⟩
    cases read : Record.ofRow "" schema {} zone row with
    | error fault => exact ⟨fault, Record.ofRow_eq_error_iff.mp read⟩
    | ok record =>
        obtain ⟨value, -, done⟩ := exists_of_forall₂ (Record.ofRow_eq_ok_iff.mp read).fields member
        have accepted := Record.loaded_ok_iff.mp ⟨value, Record.loaded_eq_ok_iff.mpr done⟩
        exact absurd ⟨cause, rejects⟩ accepted

/-- Rows with the same cells for the fields have the same fault, if any. -/
theorem Refused.congr
    (same : ∀ field ∈ schema.fields, ∀ cell, row.Counts field.name cell ↔ other.Counts field.name cell)
    {fault : Fault} (refused : row.Refused schema zone fault) : other.Refused schema zone fault := by
  obtain ⟨front, field, back, cause, shape, fine, ⟨cell, counts, rejected⟩, rfl⟩ := refused
  have inside : ∀ earlier ∈ front, earlier ∈ schema.fields := by
    intro earlier member
    rw [shape]
    exact List.mem_append_left _ member
  have here : field ∈ schema.fields := by simp [shape]
  refine ⟨front, field, back, cause, shape, ?_, ⟨cell, ?_, rejected⟩, rfl⟩
  · rintro earlier member ⟨cause, cell, counts, rejected⟩
    have own := (same earlier (inside earlier member) cell).mpr counts
    exact fine earlier member ⟨cause, cell, own, rejected⟩
  · exact (same field here cell).mp counts

end Row

/-! ## Lists of rows -/

/-- Of rows, the first of which has number `n`: the records of those that can be read, and a warning with
the number of each other row, both in the order of the rows. -/
inductive Batch (table : String) (Reads : Row → Record → Prop) (Refuses : Row → Fault → Prop) :
    Nat → List Row → List Record → List Warning → Prop
  | nil (n : Nat) : Batch table Reads Refuses n [] [] []
  | kept {n : Nat} {row : Row} {rows : List Row} {record : Record} {records : List Record}
      {warnings : List Warning} (reads : Reads row record)
      (others : Batch table Reads Refuses (n + 1) rows records warnings) :
      Batch table Reads Refuses n (row :: rows) (record :: records) warnings
  | skipped {n : Nat} {row : Row} {rows : List Row} {fault : Fault} {records : List Record}
      {warnings : List Warning} (refuses : Refuses row fault)
      (others : Batch table Reads Refuses (n + 1) rows records warnings) :
      Batch table Reads Refuses n (row :: rows) records (.rowSkipped table n fault :: warnings)

namespace Store
variable {σ : Type}

theorem keepReadable_batch (table : String) {Reads : Row → Record → Prop}
    {Refuses : Row → Fault → Prop} (read : Row → Except Fault Record)
    (reads : ∀ row record, read row = .ok record → Reads row record)
    (refuses : ∀ row fault, read row = .error fault → Refuses row fault) (rows : List Row) (n : Nat)
    (store : Store σ) :
    ∃ records warnings after,
      runOn (keepReadable table ((rows.map read).zipIdx n)) store = (.ok records, after) ∧
      after.journal = store.journal ++ warnings.map Event.warning ∧
      Batch table Reads Refuses n rows records warnings := by
  induction rows generalizing n store with
  | nil => exact ⟨[], [], store, rfl, (List.append_nil _).symm, .nil n⟩
  | cons row rest ih =>
      rw [List.map_cons, List.zipIdx_cons]
      cases here : read row with
      | ok record =>
          obtain ⟨records, warnings, after, ran, journal, batch⟩ := ih (n + 1) store
          refine ⟨record :: records, warnings, after, ?_, journal, .kept (reads row record here) batch⟩
          rw [keepReadable, Session.runOn_bind, ran]
          rfl
      | error fault =>
          let warning := Warning.rowSkipped table n fault
          obtain ⟨records, warnings, after, ran, journal, batch⟩ :=
            ih (n + 1) (store.record (.warning warning))
          refine ⟨records, warning :: warnings, after, ?_, ?_, .skipped (refuses row fault here) batch⟩
          · rw [keepReadable, Session.runOn_bind, warn, Session.runOn_modify]
            exact ran
          · rw [journal, List.map_cons]
            exact List.append_assoc _ [_] _

section Searches
variable {entity : String} {request : Search} {store : Store σ} {schema : Schema}

theorem search_failed (known : (runOn (Store.schema entity) store).1 = .ok schema) {message : String}
    {backend : σ}
    (failed : store.driver (.query ((request.select schema).statement store.dialect)) store.backend =
      (.error message, backend)) :
    (runOn (search entity request) store).1 = .ok [] ∧
      (runOn (search entity request) store).2.journal =
        store.journal ++ [.call (.query ((request.select schema).statement store.dialect)) false,
          .warning (.searchFailed schema.table message)] := by
  obtain ⟨after, agrees, searched⟩ := search_asks request known
  rw [← agrees.driver, ← agrees.backend, ← agrees.dialect] at failed
  rw [searched, ask_of_reply after failed, ← agrees.journal, ← agrees.dialect]
  refine ⟨rfl, ?_⟩
  exact List.append_assoc after.journal [_] [_]

theorem search_answered (known : (runOn (Store.schema entity) store).1 = .ok schema) {rows : List Row}
    {backend : σ}
    (answered : store.driver (.query ((request.select schema).statement store.dialect)) store.backend =
      (.ok rows, backend)) :
    ∃ records warnings, (runOn (search entity request) store).1 = .ok records ∧
      (runOn (search entity request) store).2.journal =
        store.journal ++ .call (.query ((request.select schema).statement store.dialect)) true ::
          warnings.map Event.warning ∧
      Batch schema.table
        (fun row record => record.IsOf entity schema (store.hooks entity) store.dialect.zone row)
        (fun row fault => row.Refused schema store.dialect.zone fault) 0 rows records warnings := by
  obtain ⟨after, agrees, searched⟩ := search_asks request known
  rw [← agrees.driver, ← agrees.backend, ← agrees.dialect] at answered
  obtain ⟨records, warnings, last, ran, warned, batch⟩ := keepReadable_batch schema.table
    (Record.ofRow entity schema (after.hooks entity) after.dialect.zone)
    (fun row record => Record.ofRow_eq_ok_iff.mp) (fun row fault => Record.ofRow_eq_error_iff.mp)
    rows 0 (({ after with backend } : Store σ).record
      (.call (.query ((request.select schema).statement after.dialect)) true))
  rw [agrees.hooks] at batch
  rw [searched, ask_of_reply after answered, ← agrees.journal, ← agrees.dialect]
  refine ⟨records, warnings, congrArg Prod.fst ran, ?_, batch⟩
  refine (congrArg (fun ended => ended.2.journal) ran).trans ?_
  rw [warned]
  exact List.append_assoc after.journal [_] _

end Searches

/-- Of a search that fails, the result is no records and one warning.  Of an answer, the records are
those of the rows that can be read, in order, and there is one warning with the number of each other
row.  A row cannot be read if and only if the cell of some field is rejected, which only numbers and
documents can be; and nothing counts but the cells of the fields, among which the identifier is not. -/
theorem search_maps_rows {declaration : Declaration} {schema : Schema}
    (valid : declaration.schema = .ok schema) (entity : String) (request : Search) (store : Store σ)
    (known : (runOn (Store.schema entity) store).1 = .ok schema) :
    let call : Call := .query ((request.select schema).statement store.dialect)
    let hooks := store.hooks entity
    let zone := store.dialect.zone
    let ended := runOn (search entity request) store
    (∀ message backend, store.driver call store.backend = (.error message, backend) →
      ended.1 = .ok [] ∧ ended.2.journal =
        store.journal ++ [.call call false, .warning (.searchFailed schema.table message)]) ∧
    (∀ rows backend, store.driver call store.backend = (.ok rows, backend) →
      ∃ records warnings, ended.1 = .ok records ∧
        ended.2.journal = store.journal ++ .call call true :: warnings.map Event.warning ∧
        Batch schema.table (fun row record => record.IsOf entity schema hooks zone row)
          (fun row fault => row.Refused schema zone fault) 0 rows records warnings) ∧
    (∀ row : Row, (∃ fault, row.Refused schema zone fault) ↔
      ∃ field ∈ schema.fields, ∃ cause, row.Rejects zone field cause) ∧
    (∀ (row : Row) (field : Field) (cause : ConversionFault), row.Rejects zone field cause →
      field.kind = .int ∨ field.kind = .float ∨ field.kind = .structured) ∧
    (∀ row other : Row,
      (∀ field ∈ schema.fields, ∀ cell, row.Counts field.name cell ↔ other.Counts field.name cell) →
        ∀ fault, row.Refused schema zone fault ↔ other.Refused schema zone fault) ∧
    schema.idColumn ∉ schema.fields.map Field.name := by
  refine ⟨fun message backend => search_failed known, fun rows backend => search_answered known,
    fun row => Row.exists_refused_iff, fun row field cause => Row.Rejects.kind, ?_, ?_⟩
  · intro row other same fault
    exact ⟨.congr same, .congr fun field member cell => (same field member cell).symm⟩
  · intro member
    obtain ⟨field, fieldMember, name⟩ := List.mem_map.mp member
    exact (declaration.wellFormed_schema valid).apart field fieldMember name

def users : Declaration where
  table := "users"
  fields := [("name", none), ("age", some "int"), ("active", some "bool")]

def usersSchema : Schema where
  table := "users"
  idColumn := "id"
  fields := [⟨"name", .string, "name"⟩, ⟨"age", .int, "age"⟩, ⟨"active", .bool, "active"⟩]
  saveFields := ["name", "age", "active"]
  groupBy := []
  deletion := .hard

def userRows : List Row :=
  [[("id", .int 1), ("name", .str "Ann"), ("age", .str "old"), ("age", .int 42)],
    [("id", .int 2), ("name", .str "Bob"), ("age", .str "old")],
    [("id", .binary [0xFF]), ("active", .str "?"), ("name", .binary [0xFF]), ("note", .binary [])]]

def answeredStore (rows : List Row) : Store Unit :=
  Store.new (answering rows) () .standard (Catalog.ofEntities fun _ => { declaration := users })

def userStore : Store Unit := answeredStore userRows

theorem search_maps_rows_users :
    users.schema = .ok usersSchema ∧ (runOn (Store.schema "User") userStore).1 = .ok usersSchema ∧
      ∃ records, (runOn (search "User" {}) userStore).1 = .ok records ∧
        Batch "users" (fun row record => record.IsOf "User" usersSchema {} .utc row)
          (fun row fault => row.Refused usersSchema .utc fault) 0 userRows records
          [.rowSkipped "users" 1 (.conversion "age" ⟨"old", .int, .notNumber⟩)] ∧
        records.map (fun record => record.id.text) = ["1", "\uFFFD"] := by
  have valid : users.schema = .ok usersSchema := rfl
  have known : (runOn (Store.schema "User") userStore).1 = .ok usersSchema := rfl
  obtain ⟨-, answered, -⟩ := search_maps_rows valid "User" {} userStore known
  obtain ⟨records, warnings, found, journal, batch⟩ := answered userRows () rfl
  have warned : (runOn (search "User" {}) userStore).2.journal =
      [.call (.query ⟨"SELECT * FROM `users`", []⟩) true,
        .warning (.rowSkipped "users" 1 (.conversion "age" ⟨"old", .int, .notNumber⟩))] := by
    decide +kernel
  have same : warnings.map Event.warning =
      [.warning (.rowSkipped "users" 1 (.conversion "age" ⟨"old", .int, .notNumber⟩))] :=
    (List.cons.inj (journal.symm.trans warned)).2
  obtain ⟨warning, rfl, equal⟩ := List.map_eq_singleton_iff.mp same
  obtain rfl := Event.warning.inj equal
  have kept : (runOn (search "User" {}) userStore).1.toOption.map
      (List.map fun record => record.id.text) = some ["1", "\uFFFD"] := by
    decide +kernel
  rw [found] at kept
  exact ⟨valid, known, records, found, batch, Option.some.inj kept⟩

end Store

end RecordMapper
