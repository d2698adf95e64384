import RecordMapper.Proofs.Entity.Registry
import RecordMapper.Store.Session
/-! # Looking up entities

A lookup changes nothing but what is known of entities, and once an entity is known it stays so. -/
set_option autoImplicit false
namespace RecordMapper.Store
open Registry (lookup_known lookup_new)
open Session (runOn)
variable {σ : Type}

/-- Nothing but the registry and the count of consultations is different. -/
structure Agrees (store after : Store σ) : Prop where
  driver : after.driver = store.driver
  backend : after.backend = store.backend
  dialect : after.dialect = store.dialect
  entity : after.catalog.entity = store.catalog.entity
  inTransaction : after.inTransaction = store.inTransaction
  journal : after.journal = store.journal

theorem Agrees.hooks {store after : Store σ} (agrees : store.Agrees after) (entity : String) :
    after.hooks entity = store.hooks entity :=
  congrArg (fun entities => (entities entity).hooks) agrees.entity

theorem agrees_schema (entity : String) (store : Store σ) :
    store.Agrees (runOn (Store.schema entity) store).2 := by
  rw [runOn_schema, Registry.lookup]
  cases store.registry.get? entity with
  | none => exact ⟨rfl, rfl, rfl, rfl, rfl, rfl⟩
  | some found => exact ⟨rfl, rfl, rfl, rfl, rfl, rfl⟩

theorem registry_schema (entity : String) (store : Store σ) {schema : Schema}
    (known : (runOn (Store.schema entity) store).1 = .ok schema) :
    (runOn (Store.schema entity) store).2.registry.get? entity = some (.ok schema) := by
  rw [runOn_schema] at known ⊢
  cases found : store.registry.get? entity with
  | none =>
      rw [lookup_new found] at known ⊢
      generalize (store.catalog.entity entity).declaration.schema = result at known ⊢
      cases result with
      | error cause => cases known
      | ok other =>
          obtain rfl : other = schema := Except.ok.inj known
          exact OrderedMap.get?_insert_self store.registry entity (.ok other)
  | some result =>
      rw [lookup_known found] at known ⊢
      cases result with
      | error cause => cases known
      | ok other =>
          obtain rfl : other = schema := Except.ok.inj known
          exact found

/-- The store that comes of a lookup which finds the entity. -/
theorem exists_known {entity : String} {store : Store σ} {schema : Schema}
    (known : (runOn (Store.schema entity) store).1 = .ok schema) :
    ∃ after, runOn (Store.schema entity) store = (.ok schema, after) ∧ store.Agrees after ∧
      after.registry.get? entity = some (.ok schema) :=
  ⟨_, Prod.ext known rfl, agrees_schema entity store, registry_schema entity store known⟩

theorem schema_of_declared {entity : String} {store : Store σ} {schema : Schema}
    (new : store.registry.get? entity = none)
    (valid : (store.catalog.entity entity).declaration.schema = .ok schema) :
    (runOn (Store.schema entity) store).1 = .ok schema := by
  rw [runOn_schema, lookup_new new, valid]
  rfl

theorem schema_of_registry {entity : String} (store : Store σ) {schema : Schema}
    (known : store.registry.get? entity = some (.ok schema)) :
    runOn (Store.schema entity) store = (.ok schema, store) := by
  rw [runOn_schema, lookup_known known]
  rfl

end RecordMapper.Store
