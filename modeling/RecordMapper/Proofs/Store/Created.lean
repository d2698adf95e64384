import RecordMapper.Proofs.Sql.Slots
import RecordMapper.Proofs.Store.Sent
import RecordMapper.Proofs.Store.Written
/-! # The row and the record of what is created

What is created is inserted by one call, and the record that comes back holds the given values while the
row keeps what the hooks have made of them (`Store.create_ok_cases`).  A generated identifier that is
`NULL` is refused before any call, but only when all of the row has been made
(`Store.create_corresponds`). -/
set_option autoImplicit false
namespace RecordMapper

open Calendar (Offset)
open Session (runOn)

theorem Sql.Insert.statement_eq (insert : Sql.Insert) (dialect : Sql.Dialect) :
    insert.statement dialect = ⟨insert.text dialect, givenCells insert.cells⟩ := by
  have params : (insert.statement dialect).params = givenCells insert.cells :=
    (Command.insert insert).params_given dialect
  rw [← insert.sql_statement dialect, ← params]

/-! ## Rows that cannot be made -/

/-- Why a row with a generated `NULL` for its identifier is refused: for the first thing that is wrong
with it, and for the identifier last. -/
inductive Schema.RefusesNull (schema : Schema) (hooks : Hooks) (zone : Offset) (values : Values) :
    Fault → Prop
  | name (name : String) (given : name ∈ values.keys) (unknown : schema.field? name = none)
      (cause : Misuse) : RefusesNull schema hooks zone values (.misuse cause)
  | value (fields : ∀ name ∈ values.keys, ∃ field, schema.field? name = some field)
      (front back : List (String × Value)) (name : String) (value : Value) (field : Field)
      (cause : ConversionFault) (shape : values.entries = front ++ (name, value) :: back)
      (fine : ∀ earlier ∈ front, ∃ cell, schema.Keeps hooks zone earlier cell)
      (found : schema.field? name = some field)
      (refused : (hooks.onStore name value).toStorage field.kind zone = .error cause) :
      RefusesNull schema hooks zone values (.conversion name cause)
  | identifier (cells : List (String × Cell))
      (keeps : List.Forall₂ (schema.Keeps hooks zone) values.entries cells) :
      RefusesNull schema hooks zone values (.misuse (.nullIdentifier schema.table))

namespace Schema
variable {schema : Schema} {hooks : Hooks} {zone : Offset} {values : Values}

theorem storedCell_eq_error {name : String} {value : Value} {field : Field} {fault : Fault}
    (found : schema.field? name = some field)
    (failed : schema.storedCell hooks zone name value = .error fault) :
    ∃ cause, (hooks.onStore name value).toStorage field.kind zone = .error cause ∧
      fault = .conversion name cause := by
  rw [storedCell, found] at failed
  dsimp only at failed
  split at failed
  · cases failed
  · next cause refused => exact ⟨cause, refused, (Except.error.inj failed).symm⟩

/-- Names are checked first, then values are converted, and the identifier comes last. -/
theorem refusesNull_of_newRow (wellFormed : schema.WellFormed)
    (generated : hooks.generateId values = some .null) :
    ∃ fault, schema.newRow hooks zone values = .error fault ∧
      schema.RefusesNull hooks zone values fault := by
  rw [newRow]
  by_cases fields : ∀ name ∈ values.keys, ∃ field, schema.field? name = some field
  · obtain ⟨known, free⟩ := wellFormed.checked_iff.mpr fields
    rw [known, free]
    cases stored : schema.storedCells hooks zone values with
    | ok cells =>
        refine ⟨_, ?_, .identifier cells (storedCells_iff_keeps.mp stored)⟩
        simp only [Fault.ofMisuse, Except.mapError, bind, Except.bind, generated]
        rfl
    | error fault =>
        refine ⟨fault, rfl, ?_⟩
        obtain ⟨front, ⟨name, value⟩, back, shape, fine, failed⟩ := mapM_eq_error_iff.mp stored
        obtain ⟨field, found⟩ := fields name (by simp [OrderedMap.keys, shape])
        obtain ⟨cause, refused, rfl⟩ := storedCell_eq_error found failed
        refine .value fields front back name value field cause shape (fun earlier member => ?_) found
          refused
        obtain ⟨cell, done⟩ := fine earlier member
        exact ⟨cell, storedCell_eq_ok_iff.mp done⟩
  · obtain ⟨name, given, unknown⟩ : ∃ name ∈ values.keys, schema.field? name = none := by
      simpa [Option.eq_none_iff_forall_ne_some] using fields
    cases known : schema.checkFields values.keys with
    | error cause => exact ⟨_, rfl, .name name given unknown cause⟩
    | ok _ =>
        cases free : schema.refuseIdentifier values.keys with
        | error cause => exact ⟨_, rfl, .name name given unknown cause⟩
        | ok _ => exact absurd (wellFormed.checked_iff.mp ⟨known, free⟩) fields

end Schema

namespace Store
variable {σ : Type} {entity : String} {values : Values} {schema : Schema} {store after : Store σ}
  {record : Record}

/-- What has been created was made into a row, and the row was inserted by one call. -/
theorem create_ok_cases (wellFormed : schema.WellFormed)
    (known : (runOn (Store.schema entity) store).1 = .ok schema)
    (created : runOn (create entity values) store = (.ok record, after)) :
    ∃ row, schema.newRow (store.hooks entity) store.dialect.zone values = .ok row ∧
      store.Called after [(row.call store.dialect, true)] ∧
      ((row.supplied = none ∧ ∃ id, (store.driver (.insert (row.insert.statement store.dialect))
            store.backend).1 = .ok id ∧ record = .ofValues entity schema (.int id) values) ∨
        ∃ id, row.supplied = some id ∧ record = .ofValues entity schema id values) := by
  obtain ⟨middle, found, agrees, looked⟩ := exists_looked known
  rw [runOn_create, found] at created
  dsimp only at created
  rw [agrees.hooks entity, agrees.dialect] at created
  cases made : schema.newRow (store.hooks entity) store.dialect.zone values with
  | error fault =>
      rw [made] at created
      cases created
  | ok row =>
      rw [made] at created
      obtain ⟨fields, free, -⟩ := Schema.newRow_cases made
      have filled := fun id => Record.setFields_blank wellFormed entity id fields free
      refine ⟨row, rfl, ?_⟩
      obtain ⟨insert, _ | id⟩ := row
      · let call : Call := .insert (insert.statement store.dialect)
        have asked := called_ask middle call
        have replied : (middle.ask call).1 = (store.driver call store.backend).1 := by
          rw [← agrees.driver, ← agrees.backend]
          rfl
        dsimp only at created
        rcases reply : middle.ask call with ⟨message | id, later⟩
        · rw [reply] at created
          cases created
        · rw [reply] at created asked replied
          obtain ⟨made, rfl⟩ := Prod.mk.inj created
          rw [filled] at made
          refine ⟨looked.trans asked, .inl ⟨rfl, id, replied.symm, (Except.ok.inj made).symm⟩⟩
      · have asked := called_ask middle (.exec (insert.statement store.dialect))
        dsimp only at created
        rcases reply : middle.ask (.exec (insert.statement store.dialect)) with ⟨message | count, later⟩
        · rw [reply] at created
          cases created
        · rw [reply] at created asked
          obtain ⟨made, rfl⟩ := Prod.mk.inj created
          rw [filled] at made
          exact ⟨looked.trans asked, .inr ⟨id, rfl, (Except.ok.inj made).symm⟩⟩

theorem create_refused {fault : Fault} (known : (runOn (Store.schema entity) store).1 = .ok schema)
    (refused : schema.newRow (store.hooks entity) store.dialect.zone values = .error fault) :
    ∃ after, runOn (create entity values) store = (.error fault, after) ∧ store.Called after [] := by
  obtain ⟨middle, found, agrees, looked⟩ := exists_looked known
  refine ⟨middle, ?_, looked⟩
  rw [runOn_create, found]
  dsimp only
  rw [agrees.hooks entity, agrees.dialect, refused]

theorem create_unknown {fault : Fault} (values : Values)
    (unknown : (runOn (Store.schema entity) store).1 = .error fault) :
    (∃ cause, fault = .misuse cause) ∧
      ∃ after, runOn (create entity values) store = (.error fault, after) ∧ store.Called after [] := by
  refine ⟨?_, _, ?_, called_schema entity store⟩
  · rw [runOn_schema] at unknown
    generalize store.registry.lookup store.catalog entity = looked at unknown
    obtain ⟨cause | schema, registry, catalog⟩ := looked
    · exact ⟨cause, (Except.error.inj unknown).symm⟩
    · cases unknown
  · have looked : runOn (Store.schema entity) store =
        (.error fault, (runOn (Store.schema entity) store).2) := Prod.ext unknown rfl
    rw [runOn_create, looked]

/-- Of what has been created, one call inserts a row that has a cell for each given value, in the order
in which they were given, and a generated identifier behind them; the record has the identifier that was
generated, or else the one that the backend gave it, and holds the values as they were given and `NULL`
in every other field.  If the identifier that was generated is `NULL`, nothing is created and no call
made; what is wrong then is the declaration, or else a name, or else a value that cannot be converted,
or else the identifier. -/
theorem create_corresponds (store : Store σ) (entity : String) (values : Values)
    (declared : ∀ schema, (runOn (Store.schema entity) store).1 = .ok schema →
      ∃ declaration : Declaration, declaration.schema = .ok schema) :
    let hooks := store.hooks entity
    let zone := store.dialect.zone
    let sent (schema : Schema) (cells : List (String × Cell)) : Sql.Statement :=
      ⟨Sql.Insert.text ⟨schema.table, cells⟩ store.dialect, Sql.givenCells cells⟩
    (∀ record after, runOn (create entity values) store = (.ok record, after) →
      ∃ schema, (runOn (Store.schema entity) store).1 = .ok schema ∧
        ∃ cells, List.Forall₂ (schema.Keeps hooks zone) values.entries cells ∧
          ((hooks.generateId values = none ∧
              store.Called after [(.insert (sent schema cells), true)] ∧
              ∃ id, (store.driver (.insert (sent schema cells)) store.backend).1 = .ok id ∧
                record = .ofValues entity schema (.int id) values) ∨
            ∃ id param, hooks.generateId values = some id ∧ id.toParam zone = some param ∧
              store.Called after
                [(.exec (sent schema (cells ++ [(schema.idColumn, param.value)])), true)] ∧
              record = .ofValues entity schema id values) ∧
          ∀ field ∈ schema.fields,
            record.value? field.name = some ((values.get? field.name).getD .null)) ∧
    (hooks.generateId values = some .null →
      ∃ fault after, runOn (create entity values) store = (.error fault, after) ∧
        store.Called after [] ∧
        (((runOn (Store.schema entity) store).1 = .error fault ∧ ∃ cause, fault = .misuse cause) ∨
          ∃ schema, (runOn (Store.schema entity) store).1 = .ok schema ∧
            schema.RefusesNull hooks zone values fault)) := by
  intro hooks zone sent
  cases known : (runOn (Store.schema entity) store).1 with
  | error fault =>
      obtain ⟨misuse, later, failed, called⟩ := create_unknown values known
      refine ⟨fun record after created => ?_, fun _ => ⟨fault, later, failed, called, .inl ⟨rfl, misuse⟩⟩⟩
      cases failed.symm.trans created
  | ok schema =>
      obtain ⟨declaration, valid⟩ := declared schema known
      have wellFormed := declaration.wellFormed_schema valid
      refine ⟨fun record after created => ⟨schema, rfl, ?_⟩, fun generated => ?_⟩
      · obtain ⟨row, made, called, ended⟩ := create_ok_cases wellFormed known created
        obtain ⟨-, -, cells, keeps, ⟨none, rfl⟩ | ⟨id, param, generated, bound, rfl⟩⟩ :=
          Schema.newRow_cases made
        · obtain ⟨-, id, replied, rfl⟩ | ⟨_, impossible, -⟩ := ended
          · rw [NewRow.call, Sql.Insert.statement_eq] at called
            rw [Sql.Insert.statement_eq] at replied
            exact ⟨cells, keeps, .inl ⟨none, called, id, replied, rfl⟩,
              fun field => Record.value?_ofValues entity _ values wellFormed⟩
          · cases impossible
        · obtain ⟨impossible, -⟩ | ⟨_, same, rfl⟩ := ended
          · cases impossible
          · obtain rfl := Option.some.inj same
            rw [NewRow.call, Sql.Insert.statement_eq] at called
            exact ⟨cells, keeps, .inr ⟨id, param, generated, bound, called, rfl⟩,
              fun field => Record.value?_ofValues entity id values wellFormed⟩
      · obtain ⟨fault, refused, why⟩ := Schema.refusesNull_of_newRow wellFormed generated
        obtain ⟨after, failed, called⟩ := create_refused known refused
        exact ⟨fault, after, failed, called, .inr ⟨schema, rfl, why⟩⟩

def tickets : Entity where
  declaration :=
    { table := "tickets"
      fields := [("code", none), ("seat", some "int"), ("note", none)]
      renames := [("code", "ticket_code")] }
  hooks :=
    { onStore := fun name value => if name = "note" then .null else value
      generateId := fun values => values.get? "code" }

def ticketsSchema : Schema where
  table := "tickets"
  idColumn := "id"
  fields := [⟨"code", .string, "ticket_code"⟩, ⟨"seat", .int, "seat"⟩, ⟨"note", .string, "note"⟩]
  saveFields := ["code", "seat", "note"]
  groupBy := []
  deletion := .hard

def ticketStore : Store Unit :=
  Store.new (answering []) () .standard (Catalog.ofEntities fun _ => tickets)

def misprint : Values := ⟨[("seat", .str "x"), ("code", .null)], by decide⟩

/-- The fault is that of the seat and no misuse, although the identifier that is generated is `NULL`. -/
theorem null_identifier_is_found_last :
    (ticketStore.hooks "Ticket").generateId misprint = some .null ∧
      ∃ after, runOn (create "Ticket" misprint) ticketStore =
          (.error (.conversion "seat" ⟨"x", .int, .notNumber⟩), after) ∧
        after.journal = [] ∧
        ¬ ∃ cause, Fault.conversion "seat" ⟨"x", .int, .notNumber⟩ = .misuse cause :=
  ⟨rfl, _, rfl, rfl, nofun⟩

def gift : Values := ⟨[("note", .str "gift"), ("code", .str "k1")], by decide⟩

/-- The row of a ticket with a code has the code twice and no note; its record has the note. -/
theorem create_corresponds_tickets :
    (∀ schema, (runOn (Store.schema "Ticket") ticketStore).1 = .ok schema →
        ∃ declaration : Declaration, declaration.schema = .ok schema) ∧
      (∃ record after cells, runOn (create "Ticket" gift) ticketStore = (.ok record, after) ∧
        List.Forall₂ (ticketsSchema.Keeps tickets.hooks .utc) gift.entries cells ∧
        ticketStore.Called after [(.exec
          ⟨Sql.Insert.text ⟨"tickets", cells ++ [("id", .str "k1")]⟩ .standard,
            Sql.givenCells (cells ++ [("id", .str "k1")])⟩, true)] ∧
        record.id = .str "k1" ∧ record.value? "note" = some (.str "gift") ∧
        record.value? "seat" = some .null) ∧
      ∃ fault after, runOn (create "Ticket" misprint) ticketStore = (.error fault, after) ∧
        ticketsSchema.RefusesNull tickets.hooks .utc misprint fault := by
  have known : (runOn (Store.schema "Ticket") ticketStore).1 = .ok ticketsSchema := rfl
  have declared : ∀ schema, (runOn (Store.schema "Ticket") ticketStore).1 = .ok schema →
      ∃ declaration : Declaration, declaration.schema = .ok schema :=
    fun schema found => ⟨tickets.declaration, congrArg Except.ok (Except.ok.inj found)⟩
  obtain ⟨corresponds, -⟩ := create_corresponds ticketStore "Ticket" gift declared
  obtain ⟨-, refuses⟩ := create_corresponds ticketStore "Ticket" misprint declared
  obtain ⟨fault, later, failed, -, why⟩ := refuses rfl
  have refused : ticketsSchema.RefusesNull tickets.hooks .utc misprint fault := by
    obtain ⟨unknown, -⟩ | ⟨schema, found, refused⟩ := why
    · cases known.symm.trans unknown
    · cases known.symm.trans found
      exact refused
  obtain ⟨record, after, created⟩ : ∃ record after,
      runOn (create "Ticket" gift) ticketStore = (.ok record, after) := ⟨_, _, rfl⟩
  obtain ⟨schema, found, cells, keeps, ⟨none, -⟩ | ⟨id, param, generated, bound, called, rfl⟩, held⟩ :=
    corresponds record after created
  · cases none
  · cases known.symm.trans found
    obtain rfl : Value.str "k1" = id := Option.some.inj generated
    obtain rfl := Option.some.inj bound
    exact ⟨declared, ⟨_, after, cells, created, keeps, called, rfl,
      held ⟨"note", .string, "note"⟩ (by decide), held ⟨"seat", .int, "seat"⟩ (by decide)⟩, fault, later,
      failed, refused⟩

end Store

end RecordMapper
