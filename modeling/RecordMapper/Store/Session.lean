import RecordMapper.Store.Basic
/-! # Sessions

A session is what is done with a store.  `Session.runOn` gives its result and the store it leaves
behind; the lemmas here say how the parts of a session run one after another. -/
set_option autoImplicit false
namespace RecordMapper

/-- What is done with a store: it ends with a value or a fault, and leaves the store changed in
either case. -/
abbrev Session (σ : Type) := ExceptT Fault (StateM (Store σ))

def Fault.ofMisuse {α : Type} (result : Except Misuse α) : Except Fault α :=
  result.mapError Fault.misuse

theorem Fault.ofMisuse_eq_ok_iff {α : Type} {result : Except Misuse α} {a : α} :
    ofMisuse result = .ok a ↔ result = .ok a := by
  cases result with
  | error cause =>
    constructor
    · intro wrong
      cases wrong
    · intro wrong
      cases wrong
  | ok other =>
    constructor
    · intro same
      exact congrArg _ (Except.ok.inj same)
    · intro same
      exact congrArg _ (Except.ok.inj same)

namespace Session
variable {σ α β : Type}

def runOn (session : Session σ α) (store : Store σ) : Except Fault α × Store σ :=
  StateT.run (ExceptT.run session) store

@[simp] theorem runOn_pure (a : α) (store : Store σ) :
    runOn (pure a) store = (.ok a, store) := rfl

@[simp] theorem runOn_throw (fault : Fault) (store : Store σ) :
    runOn (throw fault : Session σ α) store = (.error fault, store) := rfl

@[simp] theorem runOn_get (store : Store σ) :
    runOn (get : Session σ (Store σ)) store = (.ok store, store) := rfl

@[simp] theorem runOn_set (store after : Store σ) :
    runOn (set after : Session σ PUnit) store = (.ok ⟨⟩, after) := rfl

@[simp] theorem runOn_modify (f : Store σ → Store σ) (store : Store σ) :
    runOn (modify f : Session σ PUnit) store = (.ok ⟨⟩, f store) := rfl

@[simp] theorem runOn_modifyGet (f : Store σ → α × Store σ) (store : Store σ) :
    runOn (modifyGet f : Session σ α) store = (.ok (f store).1, (f store).2) := rfl

theorem runOn_bind (session : Session σ α) (next : α → Session σ β) (store : Store σ) :
    runOn (session >>= next) store =
      match runOn session store with
      | (.ok a, after) => runOn (next a) after
      | (.error fault, after) => (.error fault, after) := by
  show StateT.run (ExceptT.run session >>= ExceptT.bindCont next) store = _
  rw [StateT.run_bind]
  unfold runOn
  generalize StateT.run (ExceptT.run session) store = r
  obtain ⟨_ | _, _⟩ := r <;> rfl

theorem runOn_map (f : α → β) (session : Session σ α) (store : Store σ) :
    runOn (f <$> session) store =
      match runOn session store with
      | (.ok a, after) => (.ok (f a), after)
      | (.error fault, after) => (.error fault, after) := by
  rw [map_eq_pure_bind, runOn_bind]
  rfl

theorem runOn_tryCatch (session : Session σ α) (handle : Fault → Session σ α) (store : Store σ) :
    runOn (tryCatch session handle) store =
      match runOn session store with
      | (.ok a, after) => (.ok a, after)
      | (.error fault, after) => runOn (handle fault) after := by
  simp only [runOn, tryCatch, tryCatchThe, MonadExceptOf.tryCatch, ExceptT.tryCatch, ExceptT.run,
    ExceptT.mk, StateT.run_bind]
  generalize StateT.run session store = r
  obtain ⟨_ | _, _⟩ := r <;> rfl

def ofMisuse (result : Except Misuse α) : Session σ α :=
  match result with
  | .ok a => pure a
  | .error cause => throw (.misuse cause)

@[simp] theorem runOn_ofMisuse (result : Except Misuse α) (store : Store σ) :
    runOn (ofMisuse result) store = (Fault.ofMisuse result, store) := by
  cases result <;> rfl

end Session

namespace Store
variable {σ : Type}

def perform (call : Call) : Session σ (Except String call.Reply) :=
  modifyGet fun store => store.ask call

def require (context : String) (call : Call) : Session σ call.Reply := do
  match ← perform call with
  | .ok reply => pure reply
  | .error message => throw (.store context [message])

theorem runOn_require (context : String) (call : Call) (store : Store σ) :
    Session.runOn (require context call) store =
      match store.ask call with
      | (.ok reply, after) => (.ok reply, after)
      | (.error message, after) => (.error (.store context [message]), after) := by
  rw [require, Session.runOn_bind, perform, Session.runOn_modifyGet]
  generalize store.ask call = r
  obtain ⟨_ | _, _⟩ := r <;> rfl

def warn (warning : Warning) : Session σ Unit :=
  modify fun store => store.record (.warning warning)

def schema (entity : String) : Session σ Schema := do
  let store ← get
  let (found, registry, catalog) := store.registry.lookup store.catalog entity
  set { store with registry := registry, catalog := catalog }
  match found with
  | .ok schema => pure schema
  | .error cause => throw (.misuse cause)

theorem runOn_schema (entity : String) (store : Store σ) :
    Session.runOn (schema entity) store =
      let (found, registry, catalog) := store.registry.lookup store.catalog entity
      (found.mapError Fault.misuse, { store with registry := registry, catalog := catalog }) := by
  simp only [schema, Session.runOn_bind, Session.runOn_get, Session.runOn_set]
  rcases store.registry.lookup store.catalog entity with ⟨_ | _, _, _⟩ <;> rfl

/-- Declares an entity anew.  A schema that is known already stays as it is. -/
def define (name : String) (entity : Entity) : Session σ Unit :=
  modify fun store => { store with catalog := store.catalog.define name entity }

end Store

end RecordMapper
