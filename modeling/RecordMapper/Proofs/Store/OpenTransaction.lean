import RecordMapper.Proofs.Store.Ending
import RecordMapper.Proofs.Store.RecordWork
/-! # When a transaction is open

The calls of a store tell whether a transaction is open: one was begun, and since then none was
committed and no rollback was tried (`IsOpen`).  What an operation can do to that is a `Transition`, and
the flag of the store keeps step with the calls along every run (`Operation.isOpen_runAll`). -/
set_option autoImplicit false
namespace RecordMapper

open Event (calls)
open Session (runOn)

/-! ## Steps -/

/-- From one state of the flag to the next, with the calls that are made on the way. -/
inductive Transition : Bool → List (Call × Bool) → Bool → Prop
  | begun (succeeded : Bool) : Transition false [(.begin, succeeded)] succeeded
  | committed (succeeded : Bool) : Transition true [(.commit, succeeded)] (!succeeded)
  | rolledBack (succeeded : Bool) : Transition true [(.rollback, succeeded)] false
  | worked (flag : Bool) (made : List (Call × Bool))
      (statements : ∀ entry ∈ made, entry.1.isStatement = true) : Transition flag made flag

theorem Transition.idle (flag : Bool) : Transition flag [] flag := .worked flag [] (by simp)

namespace Store
variable {σ : Type} (store : Store σ)

def Moves (ended : Store σ) : Prop :=
  ∃ made, store.Called ended made ∧ Transition store.inTransaction made ended.inTransaction

theorem moves_begin : store.Moves (runOn begin store).2 := by
  cases flag : store.inTransaction with
  | true =>
      rw [begin_refused flag]
      exact ⟨[], .refl store, .idle _⟩
  | false =>
      obtain ⟨succeeded, controls, after⟩ := begin_controls flag
      refine ⟨_, controls.called, ?_⟩
      rw [flag, after]
      exact .begun succeeded

theorem moves_commit : store.Moves (runOn commit store).2 := by
  cases flag : store.inTransaction with
  | false =>
      rw [commit_refused flag]
      exact ⟨[], .refl store, .idle _⟩
  | true =>
      obtain ⟨succeeded, controls, after⟩ := commit_controls flag
      refine ⟨_, controls.called, ?_⟩
      rw [flag, after]
      exact .committed succeeded

theorem moves_rollback : store.Moves (runOn rollback store).2 := by
  cases flag : store.inTransaction with
  | false =>
      rw [rollback_refused flag]
      exact ⟨[], .refl store, .idle _⟩
  | true =>
      obtain ⟨succeeded, controls, after⟩ := rollback_controls flag
      refine ⟨_, controls.called, ?_⟩
      rw [flag, after]
      exact .rolledBack succeeded

end Store

theorem Operation.moves {σ : Type} (operation : Operation) (store : Store σ) :
    store.Moves (runOn operation.session store).2 := by
  cases records : operation.isControl with
  | false =>
      obtain ⟨made, called, flag, statements⟩ := (operation.onRecords records).workedOn store
      refine ⟨made, called, ?_⟩
      rw [flag]
      exact .worked _ made statements
  | true =>
      cases operation with
      | begin => exact store.moves_begin
      | commit => exact store.moves_commit
      | rollback => exact store.moves_rollback
      | _ => cases records

namespace Transition
variable {before after : Bool} {made : List (Call × Bool)}

theorem closed_of_begin (moves : Transition before made after) {succeeded : Bool}
    (member : (.begin, succeeded) ∈ made) : before = false := by
  cases moves with
  | begun _ => rfl
  | committed _ => simp at member
  | rolledBack _ => simp at member
  | worked _ _ statements => cases statements _ member

theorem opened_of_end (moves : Transition before made after) {succeeded : Bool}
    (member : (.commit, succeeded) ∈ made ∨ (.rollback, succeeded) ∈ made) : before = true := by
  cases moves with
  | begun _ => simp at member
  | committed _ => rfl
  | rolledBack _ => rfl
  | worked _ _ statements => rcases member with member | member <;> cases statements _ member

theorem eq_of_nil (moves : Transition before [] after) : after = before := by
  cases moves with
  | worked _ _ _ => rfl

end Transition

/-! ## Runs -/

/-- A transaction was begun, and since then none was committed and no rollback was tried. -/
def IsOpen (trace : List (Call × Bool)) : Prop :=
  ∃ before after, trace = before ++ (.begin, true) :: after ∧ (.commit, true) ∉ after ∧
    ∀ succeeded, (.rollback, succeeded) ∉ after

theorem not_isOpen_nil : ¬ IsOpen [] := by
  rintro ⟨before, after, shape, -⟩
  exact List.cons_ne_nil _ _ (List.append_eq_nil_iff.mp shape.symm).2

/-- The last call decides, or leaves it at what the calls before it tell. -/
theorem isOpen_concat (trace : List (Call × Bool)) (entry : Call × Bool) :
    IsOpen (trace ++ [entry]) ↔ entry = (.begin, true) ∨
      IsOpen trace ∧ entry ≠ (.commit, true) ∧ entry.1 ≠ .rollback := by
  constructor
  · rintro ⟨before, after, shape, commits, rollbacks⟩
    rcases List.eq_nil_or_concat after with rfl | ⟨others, last, rfl⟩
    · obtain ⟨-, same⟩ := List.append_inj' shape rfl
      exact .inl (List.cons.inj same).1
    · rw [List.concat_eq_append, ← List.cons_append, ← List.append_assoc] at shape
      obtain ⟨shorter, same⟩ := List.append_inj' shape rfl
      obtain rfl := (List.cons.inj same).1
      rw [List.concat_eq_append] at commits rollbacks
      refine .inr ⟨⟨before, others, shorter, ?_, fun succeeded member => ?_⟩, ?_, ?_⟩
      · exact fun member => commits (List.mem_append_left _ member)
      · exact rollbacks succeeded (List.mem_append_left _ member)
      · rintro rfl
        exact commits (by simp)
      · intro rollback
        refine rollbacks entry.2 ?_
        rw [← rollback]
        simp
  · rintro (rfl | ⟨⟨before, after, rfl, commits, rollbacks⟩, noCommit, noRollback⟩)
    · exact ⟨trace, [], rfl, by simp, by simp⟩
    · refine ⟨before, after ++ [entry], by simp, fun member => ?_, fun succeeded member => ?_⟩
      · rcases List.mem_append.mp member with member | member
        · exact commits member
        · exact noCommit (List.mem_singleton.mp member).symm
      · rcases List.mem_append.mp member with member | member
        · exact rollbacks succeeded member
        · exact noRollback (congrArg Prod.fst (List.mem_singleton.mp member)).symm

theorem isOpen_append_statements (trace made : List (Call × Bool))
    (statements : ∀ entry ∈ made, entry.1.isStatement = true) :
    IsOpen (trace ++ made) ↔ IsOpen trace := by
  induction made generalizing trace with
  | nil => rw [List.append_nil]
  | cons entry rest ih =>
      have statement := statements entry (List.mem_cons_self ..)
      have others := ih (trace ++ [entry]) fun other member =>
        statements other (List.mem_cons_of_mem entry member)
      rw [List.append_cons, others, isOpen_concat]
      constructor
      · rintro (rfl | ⟨opened, -, -⟩)
        · cases statement
        · exact opened
      · refine fun opened => .inr ⟨opened, ?_, ?_⟩
        · rintro rfl
          cases statement
        · intro rollback
          rw [rollback] at statement
          cases statement

theorem Transition.isOpen {before after : Bool} {made : List (Call × Bool)}
    (moves : Transition before made after) {trace : List (Call × Bool)}
    (here : before = true ↔ IsOpen trace) : after = true ↔ IsOpen (trace ++ made) := by
  cases moves with
  | begun succeeded =>
      have closed : ¬ IsOpen trace := fun opened => Bool.noConfusion (here.mpr opened)
      rw [isOpen_concat]
      cases after <;> simp [closed]
  | committed succeeded =>
      have opened : IsOpen trace := here.mp rfl
      rw [isOpen_concat]
      cases succeeded <;> simp [opened]
  | rolledBack succeeded =>
      rw [isOpen_concat]
      simp
  | worked flag made statements => rw [isOpen_append_statements trace made statements, here]

namespace Operation
variable {σ : Type}

theorem isOpen_runAll (operations : List Operation) (store : Store σ)
    (here : store.inTransaction = true ↔ IsOpen (calls store.journal)) :
    (runAll operations store).inTransaction = true ↔
      IsOpen (calls (runAll operations store).journal) := by
  induction operations generalizing store with
  | nil => exact here
  | cons operation rest ih =>
      obtain ⟨made, called, moves⟩ := operation.moves store
      refine ih (runOn operation.session store).2 ?_
      rw [called.calls_journal]
      exact moves.isOpen here

/-- Along every run of a store the flag tells whether a transaction is open.  A transaction is begun
only from outside one, and committed or rolled back only from inside; the flag meant is the one with
which the operation starts.  A misuse has no effect, and work on records none on the flag. -/
theorem transactions_run (driver : Driver σ) (backend : σ) (dialect : Sql.Dialect)
    (catalog : Catalog) (operations : List Operation) (operation : Operation) :
    let store := runAll operations (Store.new driver backend dialect catalog)
    let ended := runOn operation.session store
    (store.inTransaction = true ↔ IsOpen (calls store.journal)) ∧
      ∃ made, store.Called ended.2 made ∧
        (∀ succeeded, (.begin, succeeded) ∈ made → store.inTransaction = false) ∧
        (∀ succeeded, (.commit, succeeded) ∈ made ∨ (.rollback, succeeded) ∈ made →
          store.inTransaction = true) ∧
        (∀ cause, ended.1 = .error (.misuse cause) →
          made = [] ∧ ended.2.inTransaction = store.inTransaction) ∧
        (operation.isControl = false → ended.2.inTransaction = store.inTransaction) := by
  intro store ended
  have start : (Store.new driver backend dialect catalog).inTransaction = true ↔
      IsOpen (calls (Store.new driver backend dialect catalog).journal) :=
    ⟨fun flag => Bool.noConfusion flag, fun opened => absurd opened not_isOpen_nil⟩
  obtain ⟨made, called, moves⟩ := operation.moves store
  refine ⟨isOpen_runAll operations _ start, made, called, fun _ member => moves.closed_of_begin member,
    fun _ member => moves.opened_of_end member, ?_, ?_⟩
  · intro cause misuse
    obtain ⟨others, called', ending⟩ := operation.endsInTier store
    obtain rfl := called.unique called'
    rw [show (runOn operation.session store).1 = _ from misuse] at ending
    obtain rfl := ending.made_of_fatal rfl
    exact ⟨rfl, moves.eq_of_nil⟩
  · intro records
    obtain ⟨_, worked⟩ := (operation.onRecords records).workedOn store
    exact worked.inTransaction

end Operation

end RecordMapper
