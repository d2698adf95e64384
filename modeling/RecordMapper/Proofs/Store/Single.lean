import RecordMapper.Proofs.Store.Batch
/-! # The one record of a search

Whether a search for one record finds one is decided on the records that are left when the rows that
cannot be read are gone.  So a record is found if and only if exactly one row of the answer can be read
(`Store.searchOne_finds`), however many rows were matched besides. -/
set_option autoImplicit false
namespace RecordMapper

open Calendar (Offset)
open Session (runOn)

/-- The record is that of the only row that can be read. -/
def Record.OnlyOf (entity : String) (schema : Schema) (hooks : Hooks) (zone : Offset)
    (rows : List Row) (record : Record) : Prop :=
  ∃ front row back, rows = front ++ row :: back ∧ record.IsOf entity schema hooks zone row ∧
    ∀ other ∈ front ++ back, ∃ fault, other.Refused schema zone fault

namespace Record
variable {entity : String} {schema : Schema} {hooks : Hooks} {zone : Offset} {rows : List Row}

def readable (entity : String) (schema : Schema) (hooks : Hooks) (zone : Offset) (rows : List Row) :
    List Record :=
  rows.filterMap fun row => (ofRow entity schema hooks zone row).toOption

theorem toOption_ofRow_eq_some_iff {row : Row} {record : Record} :
    (ofRow entity schema hooks zone row).toOption = some record ↔
      record.IsOf entity schema hooks zone row := by
  rw [← ofRow_eq_ok_iff]
  cases ofRow entity schema hooks zone row with
  | error fault => simp [Except.toOption]
  | ok other => simp [Except.toOption]

theorem toOption_ofRow_eq_none_iff {row : Row} :
    (ofRow entity schema hooks zone row).toOption = none ↔ ∃ fault, row.Refused schema zone fault := by
  cases result : ofRow entity schema hooks zone row with
  | error fault => exact iff_of_true rfl ⟨fault, ofRow_eq_error_iff.mp result⟩
  | ok other =>
      refine iff_of_false nofun ?_
      rintro ⟨fault, refused⟩
      rw [ofRow_eq_error_iff.mpr refused] at result
      cases result

theorem readable_eq_singleton_iff {record : Record} :
    readable entity schema hooks zone rows = [record] ↔
      record.OnlyOf entity schema hooks zone rows := by
  rw [readable, List.filterMap_eq_cons_iff]
  simp only [List.filterMap_eq_nil_iff, toOption_ofRow_eq_some_iff, toOption_ofRow_eq_none_iff, OnlyOf,
    List.mem_append, or_imp, forall_and]
  constructor
  · rintro ⟨front, row, back, shape, before, reads, behind⟩
    exact ⟨front, row, back, shape, reads, before, behind⟩
  · rintro ⟨front, row, back, shape, reads, before, behind⟩
    exact ⟨front, row, back, shape, before, reads, behind⟩

/-- Where every row can be read, the only one that can be is the only one. -/
theorem onlyOf_iff_of_readable (all : ∀ row ∈ rows, ¬ ∃ fault, row.Refused schema zone fault)
    {record : Record} : record.OnlyOf entity schema hooks zone rows ↔
      ∃ row, rows = [row] ∧ record.IsOf entity schema hooks zone row := by
  constructor
  · rintro ⟨front, row, back, rfl, reads, others⟩
    have none : front ++ back = [] := by
      refine List.eq_nil_iff_forall_not_mem.mpr fun other member => ?_
      have inside : other ∈ front ++ row :: back := by
        rw [List.mem_append, List.mem_cons]
        exact (List.mem_append.mp member).imp_right .inr
      exact all other inside (others other member)
    obtain ⟨rfl, rfl⟩ := List.append_eq_nil_iff.mp none
    exact ⟨row, rfl, reads⟩
  · rintro ⟨row, rfl, reads⟩
    exact ⟨[], row, [], rfl, reads, by simp⟩

end Record

namespace Store
variable {σ : Type} {entity : String} {request : Search} {store : Store σ} {schema : Schema}

theorem runOn_searchOne (entity : String) (request : Search) (store : Store σ) :
    (runOn (searchOne entity request) store).1 =
      (runOn (search entity request) store).1.map fun found =>
        match found with
        | [record] => some record
        | _ => none :=
  congrArg Prod.fst (searchOne_looks entity request store)

theorem search_readable (known : (runOn (Store.schema entity) store).1 = .ok schema) {rows : List Row}
    {backend : σ}
    (answered : store.driver (.query ((request.select schema).statement store.dialect)) store.backend =
      (.ok rows, backend)) :
    (runOn (search entity request) store).1 =
      .ok (Record.readable entity schema (store.hooks entity) store.dialect.zone rows) := by
  obtain ⟨after, agrees, searched⟩ := search_asks request known
  rw [← agrees.driver, ← agrees.backend, ← agrees.dialect] at answered
  rw [searched, ask_of_reply after answered, ← agrees.hooks entity, ← agrees.dialect]
  have unnumbered (read : List (Except Fault Record)) :
      read.zipIdx.filterMap (fun row => row.1.toOption) = read.filterMap Except.toOption := by
    conv_rhs => rw [← List.zipIdx_map_fst 0 read, List.filterMap_map]
    rfl
  refine ((keepReadable_spec schema.table _ _).1).trans (congrArg Except.ok ?_)
  rw [unnumbered, List.filterMap_map]
  rfl

/-- A search for one record never fails because of the backend, and a failed query finds none.  Of an
answer, a record is found if and only if exactly one row can be read, and it is the record of that row.
That is the demand for a single row only where all rows can be read: any row that cannot be read may
have been matched besides. -/
theorem searchOne_finds (entity : String) (request : Search) (store : Store σ)
    (known : (runOn (Store.schema entity) store).1 = .ok schema) :
    let call : Call := .query ((request.select schema).statement store.dialect)
    let hooks := store.hooks entity
    let zone := store.dialect.zone
    let found := (runOn (searchOne entity request) store).1
    (∀ (message : String) (backend : σ), store.driver call store.backend = (.error message, backend) →
      found = .ok none) ∧
    ∀ (rows : List Row) (backend : σ), store.driver call store.backend = (.ok rows, backend) →
      (∀ record, found = .ok (some record) ↔ record.OnlyOf entity schema hooks zone rows) ∧
      (found = .ok none ↔ ¬ ∃ record : Record, record.OnlyOf entity schema hooks zone rows) ∧
      ((∀ row ∈ rows, ¬ ∃ fault, row.Refused schema zone fault) → ∀ record,
        found = .ok (some record) ↔
          ∃ row, rows = [row] ∧ record.IsOf entity schema hooks zone row) := by
  intro call hooks zone found
  constructor
  · intro message backend failed
    show (runOn (searchOne entity request) store).1 = _
    rw [runOn_searchOne, (search_failed known failed).1]
    rfl
  · intro rows backend answered
    have ended : found = .ok (match Record.readable entity schema hooks zone rows with
        | [record] => some record
        | _ => none) := by
      show (runOn (searchOne entity request) store).1 = _
      rw [runOn_searchOne, search_readable known answered]
      rfl
    have single (record : Record) : found = .ok (some record) ↔
        record.OnlyOf entity schema hooks zone rows := by
      rw [ended, ← Record.readable_eq_singleton_iff]
      rcases Record.readable entity schema hooks zone rows with _ | ⟨first, _ | ⟨next, rest⟩⟩ <;> simp
    refine ⟨single, ?_, fun all record => ?_⟩
    · simp only [← single]
      rw [ended]
      rcases Record.readable entity schema hooks zone rows with _ | ⟨first, _ | ⟨next, rest⟩⟩ <;> simp
    · rw [single, Record.onlyOf_iff_of_readable all]

def twoUsers : List Row :=
  [[("id", .int 1), ("name", .str "Ann"), ("age", .str "old")],
    [("id", .int 2), ("name", .str "Bo"), ("age", .int 19)]]

/-- Two rows were matched, and one of them is returned as the single one. -/
theorem searchOne_returns_one_of_two :
    twoUsers.length = 2 ∧
      (runOn (searchOne "User" {}) (answeredStore twoUsers)).1 =
        .ok (some ⟨"User", usersSchema, .int 2, [.str "Bo", .int 19, .null]⟩) :=
  ⟨rfl, rfl⟩

theorem searchOne_finds_second :
    (runOn (Store.schema "User") (answeredStore twoUsers)).1 = .ok usersSchema ∧
      ∃ record, (runOn (searchOne "User" {}) (answeredStore twoUsers)).1 = .ok (some record) ∧
        record.OnlyOf "User" usersSchema {} .utc twoUsers := by
  have known : (runOn (Store.schema "User") (answeredStore twoUsers)).1 = .ok usersSchema := rfl
  obtain ⟨-, answered⟩ := searchOne_finds "User" {} (answeredStore twoUsers) known
  obtain ⟨found, -, -⟩ := answered twoUsers () rfl
  exact ⟨known, _, rfl, (found _).mp rfl⟩

end Store

end RecordMapper
