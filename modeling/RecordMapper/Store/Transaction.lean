import RecordMapper.Store.Session
/-! # Transactions

Transactions do not nest.  The store takes a transaction for open before the backend is asked to begin
one, and takes that back if the backend refuses.  A commit that fails leaves the transaction open, so
that it can still be rolled back; a rollback ends it even if it fails.  `transaction` commits what its
body did, or rolls it back when the body or the commit fails, and ends with that fault. -/
set_option autoImplicit false
namespace RecordMapper

namespace Store
open Session
variable {σ : Type}

def setInTransaction (isOpen : Bool) : Session σ Unit :=
  modify fun store => { store with inTransaction := isOpen }

def begin : Session σ Unit := do
  if (← get).inTransaction then throw (.misuse .transactionOpen)
  setInTransaction true
  match ← perform .begin with
  | .ok _ => pure ()
  | .error message => do
    setInTransaction false
    throw (.store "beginning transaction" [message])

def commit : Session σ Unit := do
  if !(← get).inTransaction then throw (.misuse .nothingToCommit)
  let _ ← require "committing transaction" .commit
  setInTransaction false

def rollback : Session σ Unit := do
  if !(← get).inTransaction then throw (.misuse .nothingToRollBack)
  setInTransaction false
  let _ ← require "rolling back transaction" .rollback

theorem runOn_begin (store : Store σ) :
    runOn begin store =
      if store.inTransaction then (.error (.misuse .transactionOpen), store)
      else match ({ store with inTransaction := true } : Store σ).ask .begin with
        | (.ok _, after) => (.ok (), after)
        | (.error message, after) =>
          (.error (.store "beginning transaction" [message]),
            { after with inTransaction := false }) := by
  by_cases h : store.inTransaction <;>
    simp [begin, h, runOn_bind, perform, setInTransaction]
  rcases ({ store with inTransaction := true } : Store σ).ask .begin with ⟨_ | _, _⟩ <;>
    simp [runOn_bind]

theorem runOn_commit (store : Store σ) :
    runOn commit store =
      if store.inTransaction then
        match store.ask .commit with
        | (.ok _, after) => (.ok (), { after with inTransaction := false })
        | (.error message, after) => (.error (.store "committing transaction" [message]), after)
      else (.error (.misuse .nothingToCommit), store) := by
  by_cases h : store.inTransaction <;> simp [commit, h, runOn_bind, runOn_require, setInTransaction]
  rcases store.ask .commit with ⟨_ | _, _⟩ <;> rfl

theorem runOn_rollback (store : Store σ) :
    runOn rollback store =
      if store.inTransaction then
        match ({ store with inTransaction := false } : Store σ).ask .rollback with
        | (.ok _, after) => (.ok (), after)
        | (.error message, after) => (.error (.store "rolling back transaction" [message]), after)
      else (.error (.misuse .nothingToRollBack), store) := by
  by_cases h : store.inTransaction <;>
    simp [rollback, h, runOn_bind, runOn_map, runOn_require, setInTransaction]
  rcases ({ store with inTransaction := false } : Store σ).ask .rollback with ⟨_ | _, _⟩ <;> rfl

/-- Rolls back; a failure is only warned of. -/
def rollbackQuietly : Session σ Unit :=
  tryCatch rollback fun fault => warn (.rollbackFailed fault)

theorem runOn_rollbackQuietly (store : Store σ) :
    runOn rollbackQuietly store =
      match runOn rollback store with
      | (.ok _, after) => (.ok (), after)
      | (.error fault, after) => (.ok (), after.record (.warning (.rollbackFailed fault))) := by
  rw [rollbackQuietly, runOn_tryCatch]
  rcases runOn rollback store with ⟨_ | _, _⟩ <;> rfl

def transaction {α : Type} (body : Session σ α) : Session σ α := do
  begin
  try
    let result ← body
    commit
    pure result
  catch fault =>
    rollbackQuietly
    throw fault

theorem runOn_transaction {α : Type} (body : Session σ α) (store : Store σ) :
    runOn (transaction body) store =
      match runOn begin store with
      | (.error fault, after) => (.error fault, after)
      | (.ok _, opened) =>
        match runOn body opened with
        | (.error fault, after) => (.error fault, (runOn rollbackQuietly after).2)
        | (.ok a, done) =>
          match runOn commit done with
          | (.error fault, after) => (.error fault, (runOn rollbackQuietly after).2)
          | (.ok _, after) => (.ok a, after) := by
  have undone (fault : Fault) (after : Store σ) :
      runOn (do rollbackQuietly; throw fault : Session σ α) after =
        (.error fault, (runOn rollbackQuietly after).2) := by
    rw [runOn_bind, runOn_rollbackQuietly]
    rcases runOn rollback after with ⟨_ | _, _⟩ <;> rfl
  rw [transaction, runOn_bind]
  rcases runOn begin store with ⟨_ | _, opened⟩
  · rfl
  · dsimp only
    rw [runOn_tryCatch, runOn_bind]
    rcases runOn body opened with ⟨fault | _, done⟩
    · exact undone fault done
    · dsimp only
      rw [runOn_bind]
      rcases runOn commit done with ⟨fault | _, after⟩
      · exact undone fault after
      · rfl

end Store

end RecordMapper
