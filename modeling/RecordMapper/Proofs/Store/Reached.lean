import RecordMapper.Proofs.Store.RecordWork
import RecordMapper.Store.Transaction
/-! # The stores of a program

A program starts with new stores, in which nothing is known, and works on them, with transactions or
without (`Store.Reached`).  Entities become known by lookups only, so that every schema that a store
knows is that of a valid declaration (`Store.Reached.sound`). -/
set_option autoImplicit false
namespace RecordMapper

open Session (runOn)

def Registry.Sound (registry : Registry) : Prop :=
  ∀ entity schema, registry.get? entity = some (.ok schema) →
    ∃ declaration : Declaration, declaration.schema = .ok schema

namespace Registry

theorem sound_empty : Sound OrderedMap.empty := by
  intro entity schema known
  cases known

theorem Sound.lookup {registry : Registry} (sound : registry.Sound) (catalog : Catalog)
    (name : String) : (registry.lookup catalog name).2.1.Sound := by
  cases found : registry.get? name with
  | some answer =>
      rw [lookup_known found]
      exact sound
  | none =>
      rw [lookup_new found]
      intro entity schema known
      by_cases same : entity = name
      · rw [same, OrderedMap.get?_insert_self] at known
        exact ⟨_, Option.some.inj known⟩
      · rw [OrderedMap.get?_insert_of_ne registry _ same] at known
        exact sound entity schema known

end Registry

/-- Whatever is made of the work, it adds nothing to the registry but what was declared. -/
theorem Session.OnRecords.sound {σ α : Type} {session : Session σ α} (work : session.OnRecords)
    {store : Store σ} (sound : store.registry.Sound) : (runOn session store).2.registry.Sound := by
  induction work generalizing store with
  | value a => exact sound
  | fault fault => exact sound
  | look => exact sound
  | lookUp entity =>
      rw [Store.runOn_schema]
      exact sound.lookup store.catalog entity
  | declare name entity => exact sound
  | send call statement => exact sound
  | warn warning => exact sound
  | andThen _ _ ih others =>
      have first := ih sound
      rw [runOn_bind]
      rcases ran : runOn _ store with ⟨fault | a, after⟩
      · rw [ran] at first
        exact first
      · rw [ran] at first
        exact others a first
  | recover _ _ ih others =>
      have first := ih sound
      rw [runOn_tryCatch]
      rcases ran : runOn _ store with ⟨fault | a, after⟩
      · rw [ran] at first
        exact others fault first
      · rw [ran] at first
        exact first

namespace Store
variable {σ : Type} {store : Store σ}

theorem registry_begin (store : Store σ) : (runOn begin store).2.registry = store.registry := by
  have kept : (({ store with inTransaction := true } : Store σ).ask .begin).2.registry =
      store.registry := rfl
  rw [runOn_begin]
  split
  · rfl
  · generalize ({ store with inTransaction := true } : Store σ).ask .begin = asked at kept ⊢
    obtain ⟨message | reply, after⟩ := asked
    · exact kept
    · exact kept

theorem registry_commit (store : Store σ) : (runOn commit store).2.registry = store.registry := by
  have kept : (store.ask .commit).2.registry = store.registry := rfl
  rw [runOn_commit]
  split
  · generalize store.ask .commit = asked at kept ⊢
    obtain ⟨message | reply, after⟩ := asked
    · exact kept
    · exact kept
  · rfl

theorem registry_rollback (store : Store σ) :
    (runOn rollback store).2.registry = store.registry := by
  have kept : (({ store with inTransaction := false } : Store σ).ask .rollback).2.registry =
      store.registry := rfl
  rw [runOn_rollback]
  split
  · generalize ({ store with inTransaction := false } : Store σ).ask .rollback = asked at kept ⊢
    obtain ⟨message | reply, after⟩ := asked
    · exact kept
    · exact kept
  · rfl

/-- A store that a program comes to: a new one, or what work on records or the control of transactions
leaves behind of one, whether it succeeds or fails. -/
inductive Reached : Store σ → Prop
  | new (driver : Driver σ) (backend : σ) (dialect : Sql.Dialect) (catalog : Catalog) :
      Reached (.new driver backend dialect catalog)
  | worked {α : Type} {store : Store σ} {session : Session σ α} (before : Reached store)
      (work : session.OnRecords) : Reached (runOn session store).2
  | begun {store : Store σ} (before : Reached store) : Reached (runOn begin store).2
  | committed {store : Store σ} (before : Reached store) : Reached (runOn commit store).2
  | rolledBack {store : Store σ} (before : Reached store) : Reached (runOn rollback store).2

theorem Reached.sound (reached : store.Reached) : store.registry.Sound := by
  induction reached with
  | new driver backend dialect catalog => exact Registry.sound_empty
  | worked before work ih => exact work.sound ih
  | begun before ih =>
      rw [registry_begin]
      exact ih
  | committed before ih =>
      rw [registry_commit]
      exact ih
  | rolledBack before ih =>
      rw [registry_rollback]
      exact ih

theorem Reached.declared {entity : String} {schema : Schema} (reached : store.Reached)
    (known : (runOn (Store.schema entity) store).1 = .ok schema) :
    ∃ declaration : Declaration, declaration.schema = .ok schema :=
  (reached.worked (.lookUp entity)).sound entity schema (registry_schema entity store known)

end Store

end RecordMapper
