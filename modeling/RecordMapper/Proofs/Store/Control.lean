import RecordMapper.Proofs.Store.Calls
import RecordMapper.Store.Transaction
/-! # Beginning, committing and rolling back

Each of the three is refused when the transaction is open, or not open, against its need
(`begin_refused`, `commit_refused`, `rollback_refused`).  Otherwise it makes its one call, succeeds or
fails with it, and leaves the transaction open or not (`begin_controls`, `commit_controls`,
`rollback_controls`). -/
set_option autoImplicit false
namespace RecordMapper

open Session (runOn)

namespace Store
variable {σ : Type} {store : Store σ}

theorem begin_refused (opened : store.inTransaction = true) :
    runOn begin store = (.error (.misuse .transactionOpen), store) := by
  rw [runOn_begin, if_pos opened]

theorem commit_refused (closed : store.inTransaction = false) :
    runOn commit store = (.error (.misuse .nothingToCommit), store) := by
  rw [runOn_commit, closed]
  rfl

theorem rollback_refused (closed : store.inTransaction = false) :
    runOn rollback store = (.error (.misuse .nothingToRollBack), store) := by
  rw [runOn_rollback, closed]
  rfl

inductive Answer : Bool → Except Fault Unit → Prop
  | succeeded : Answer true (.ok ())
  | failed (context message : String) : Answer false (.error (.store context [message]))

/-- The only call that a session makes, and with it succeeds or fails. -/
structure Controls (store : Store σ) (ended : Except Fault Unit × Store σ) (call : Call)
    (succeeded : Bool) : Prop where
  called : store.Called ended.2 [(call, succeeded)]
  answer : Answer succeeded ended.1

theorem Controls.of_ok {ended : Except Fault Unit × Store σ} {call : Call} {succeeded : Bool}
    (controls : store.Controls ended call succeeded) (fine : ended.1 = .ok ()) : succeeded = true := by
  have answer := controls.answer
  rw [fine] at answer
  cases answer
  rfl

theorem begin_controls (closed : store.inTransaction = false) : ∃ succeeded,
    store.Controls (runOn begin store) .begin succeeded ∧
      (runOn begin store).2.inTransaction = succeeded := by
  have called := called_ask { store with inTransaction := true } .begin
  have flag : (({ store with inTransaction := true } : Store σ).ask .begin).2.inTransaction = true := rfl
  rw [runOn_begin, closed]
  generalize ({ store with inTransaction := true } : Store σ).ask .begin = asked at called flag ⊢
  obtain ⟨message | reply, after⟩ := asked
  · exact ⟨false, ⟨called, .failed _ message⟩, rfl⟩
  · exact ⟨true, ⟨called, .succeeded⟩, flag⟩

theorem commit_controls (opened : store.inTransaction = true) : ∃ succeeded,
    store.Controls (runOn commit store) .commit succeeded ∧
      (runOn commit store).2.inTransaction = !succeeded := by
  have called := called_ask store .commit
  have flag : (store.ask .commit).2.inTransaction = true := opened
  rw [runOn_commit, if_pos opened]
  generalize store.ask .commit = asked at called flag ⊢
  obtain ⟨message | reply, after⟩ := asked
  · exact ⟨false, ⟨called, .failed _ message⟩, flag⟩
  · exact ⟨true, ⟨called, .succeeded⟩, rfl⟩

theorem rollback_controls (opened : store.inTransaction = true) : ∃ succeeded,
    store.Controls (runOn rollback store) .rollback succeeded ∧
      (runOn rollback store).2.inTransaction = false := by
  have called := called_ask { store with inTransaction := false } .rollback
  have flag : (({ store with inTransaction := false } : Store σ).ask .rollback).2.inTransaction = false :=
    rfl
  rw [runOn_rollback, if_pos opened]
  generalize ({ store with inTransaction := false } : Store σ).ask .rollback = asked at called flag ⊢
  obtain ⟨message | reply, after⟩ := asked
  · exact ⟨false, ⟨called, .failed _ message⟩, flag⟩
  · exact ⟨true, ⟨called, .succeeded⟩, flag⟩

end Store

end RecordMapper
