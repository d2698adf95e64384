import RecordMapper.Proofs.Store.OpenTransaction
/-! # How a transaction ends

Once begun, a transaction is over when `transaction` returns, whatever its body did
(`closed_of_transaction`).  If the body works on records only, then one of three things happened after
it (`Finish`): a commit; a commit that failed, and a rollback; or a rollback. -/
set_option autoImplicit false
namespace RecordMapper

namespace Store
open Session (runOn)
variable {σ α : Type} {store : Store σ}

/-! ## The parts of a transaction -/

theorem opened_of_begin (begun : (runOn begin store).1 = .ok ()) :
    store.Called (runOn begin store).2 [(.begin, true)] ∧
      (runOn begin store).2.inTransaction = true := by
  cases flag : store.inTransaction with
  | true =>
      rw [begin_refused flag] at begun
      cases begun
  | false =>
      obtain ⟨succeeded, controls, after⟩ := begin_controls flag
      obtain rfl := controls.of_ok begun
      exact ⟨controls.called, after⟩

theorem closed_of_commit (committed : (runOn commit store).1 = .ok ()) :
    (runOn commit store).2.inTransaction = false := by
  cases flag : store.inTransaction with
  | false =>
      rw [commit_refused flag] at committed
      cases committed
  | true =>
      obtain ⟨succeeded, controls, after⟩ := commit_controls flag
      obtain rfl := controls.of_ok committed
      exact after

theorem closed_of_rollbackQuietly (store : Store σ) :
    (runOn rollbackQuietly store).2.inTransaction = false := by
  have closed : (runOn rollback store).2.inTransaction = false := by
    cases flag : store.inTransaction with
    | false => rw [rollback_refused flag, flag]
    | true => exact (rollback_controls flag).choose_spec.2
  rw [runOn_rollbackQuietly]
  rcases ran : runOn rollback store with ⟨fault | _, after⟩
  · rw [ran] at closed
    exact closed
  · rw [ran] at closed
    exact closed

theorem called_rollbackQuietly (opened : store.inTransaction = true) :
    ∃ succeeded, store.Called (runOn rollbackQuietly store).2 [(.rollback, succeeded)] := by
  obtain ⟨succeeded, ⟨called, -⟩, -⟩ := rollback_controls opened
  refine ⟨succeeded, ?_⟩
  rw [runOn_rollbackQuietly]
  rcases ran : runOn rollback store with ⟨fault | _, after⟩
  · rw [ran] at called
    exact called.trans (called_warning after _)
  · rw [ran] at called
    exact called

/-! ## Transactions -/

theorem transaction_of_refused (body : Session σ α) {fault : Fault} {after : Store σ}
    (refused : runOn begin store = (.error fault, after)) :
    runOn (transaction body) store = (.error fault, after) := by
  rw [runOn_transaction, refused]

/-- The body may even have begun, committed or rolled back. -/
theorem closed_of_transaction (body : Session σ α) (begun : (runOn begin store).1 = .ok ()) :
    (runOn (transaction body) store).2.inTransaction = false := by
  rw [runOn_transaction]
  generalize runOn begin store = ran at begun
  obtain ⟨fault | _, opened⟩ := ran
  · cases begun
  · dsimp only
    rcases runOn body opened with ⟨fault | a, worked⟩
    · exact closed_of_rollbackQuietly worked
    · dsimp only
      rcases ran : runOn commit worked with ⟨fault | _, after⟩
      · exact closed_of_rollbackQuietly after
      · have committed : (runOn commit worked).1 = .ok () := by rw [ran]
        have closed := closed_of_commit committed
        rw [ran] at closed
        exact closed

/-- The end of a transaction.  From what the body came to, and the reply to a commit, follows what the
transaction comes to, with the calls that are made after the body. -/
inductive Finish : Except Fault α → Except String Call.commit.Reply → Except Fault α →
    List (Call × Bool) → Prop
  | committed (a : α) (reply : Call.commit.Reply) :
      Finish (.ok a) (.ok reply) (.ok a) [(.commit, true)]
  | uncommitted (a : α) (message : String) (succeeded : Bool) :
      Finish (.ok a) (.error message) (.error (.store "committing transaction" [message]))
        [(.commit, false), (.rollback, succeeded)]
  | failed (fault : Fault) (reply : Except String Call.commit.Reply) (succeeded : Bool) :
      Finish (.error fault) reply (.error fault) [(.rollback, succeeded)]

theorem transaction_finish {body : Session σ α} (work : body.OnRecords)
    (begun : (runOn begin store).1 = .ok ()) :
    ∃ statements finish, (∀ entry ∈ statements, entry.1.isStatement = true) ∧
      store.Called (runOn (transaction body) store).2 ((.begin, true) :: statements ++ finish) ∧
      Finish (runOn body (runOn begin store).2).1 ((runOn body (runOn begin store).2).2.ask .commit).1
        (runOn (transaction body) store).1 finish := by
  obtain ⟨called, flag⟩ := opened_of_begin begun
  rw [runOn_transaction]
  generalize runOn begin store = ran at begun called flag ⊢
  obtain ⟨fault | _, opened⟩ := ran
  · cases begun
  obtain ⟨made, worked⟩ := work.workedOn opened
  -- The body leaves the transaction open, so that neither the commit nor the rollback is refused.
  have stillOpen : (runOn body opened).2.inTransaction = true := worked.inTransaction.trans flag
  have before := called.trans worked.called
  have statements := worked.statements
  refine ⟨made, ?_⟩
  dsimp only
  generalize runOn body opened = ran at stillOpen before ⊢
  obtain ⟨fault | a, after⟩ := ran
  · obtain ⟨succeeded, rolledBack⟩ := called_rollbackQuietly stillOpen
    exact ⟨_, statements, before.trans rolledBack, .failed fault _ succeeded⟩
  · have asked := called_ask after .commit
    have flagAfter : (after.ask .commit).2.inTransaction = true := stillOpen
    dsimp only
    rw [runOn_commit, if_pos stillOpen]
    generalize after.ask .commit = answer at asked flagAfter ⊢
    obtain ⟨message | reply, ended⟩ := answer
    · obtain ⟨succeeded, rolledBack⟩ := called_rollbackQuietly flagAfter
      exact ⟨_, statements, before.trans (asked.trans rolledBack), .uncommitted a message succeeded⟩
    · exact ⟨_, statements, before.trans asked, .committed a reply⟩

/-- The last call is a rollback, the only one, and no commit succeeded. -/
def IsRolledBack (made : List (Call × Bool)) : Prop :=
  ∃ earlier succeeded, made = earlier ++ [(.rollback, succeeded)] ∧
    ∀ entry ∈ earlier, entry.1 ≠ .rollback ∧ entry ≠ (.commit, true)

section Finish
variable {worked ended : Except Fault α} {committed : Except String Call.commit.Reply}
  {finish : List (Call × Bool)}

theorem Finish.eq_ok_iff (finishes : Finish worked committed ended finish) (a : α) :
    ended = .ok a ↔ worked = .ok a ∧ committed.isOk = true := by
  cases finishes with
  | committed b reply => exact ⟨fun same => ⟨same, rfl⟩, fun same => same.1⟩
  | uncommitted b message succeeded =>
      constructor
      · rintro ⟨⟩
      · rintro ⟨-, ⟨⟩⟩
  | failed fault reply succeeded =>
      constructor
      · rintro ⟨⟩
      · rintro ⟨⟨⟩, -⟩

theorem Finish.origin {fault : Fault} (finishes : Finish worked committed (.error fault) finish) :
    worked = .error fault ∨ ∃ a message, worked = .ok a ∧ committed = .error message ∧
      fault = .store "committing transaction" [message] := by
  cases finishes with
  | uncommitted a message succeeded => exact .inr ⟨a, message, rfl, rfl, rfl⟩
  | failed _ reply succeeded => exact .inl rfl

theorem Finish.isRolledBack {fault : Fault} (finishes : Finish worked committed (.error fault) finish)
    {statements : List (Call × Bool)} (work : ∀ entry ∈ statements, entry.1.isStatement = true) :
    IsRolledBack ((.begin, true) :: statements ++ finish) := by
  have before : ∀ entry ∈ ((.begin, true) :: statements : List (Call × Bool)),
      entry.1 ≠ .rollback ∧ entry ≠ (.commit, true) := by
    intro entry member
    rcases List.mem_cons.mp member with rfl | member
    · simp
    · have statement := work entry member
      constructor
      · intro rollback
        rw [rollback] at statement
        cases statement
      · rintro rfl
        cases statement
  cases finishes with
  | failed _ reply succeeded => exact ⟨_, succeeded, rfl, before⟩
  | uncommitted a message succeeded =>
      refine ⟨(.begin, true) :: statements ++ [(.commit, false)], succeeded, by simp, ?_⟩
      intro entry member
      rcases List.mem_append.mp member with member | member
      · exact before entry member
      · obtain rfl := List.mem_singleton.mp member
        simp

end Finish

/-- A transaction that cannot be begun leaves its body alone.  One that is begun is over at the end.
If the body works on records, then the transaction comes to a value exactly when the body does and its
work is committed; otherwise the work is rolled back, and the fault is that of the body or the commit. -/
theorem transaction_outcome (body : Session σ α) (store : Store σ) :
    let begun := runOn begin store
    let worked := runOn body begun.2
    let committed := (worked.2.ask .commit).1
    let ended := runOn (transaction body) store
    (∀ fault, begun.1 = .error fault → ended = (.error fault, begun.2)) ∧
    (begun.1 = .ok () → ended.2.inTransaction = false) ∧
    (body.OnRecords →
      (∀ a, ended.1 = .ok a ↔ begun.1 = .ok () ∧ worked.1 = .ok a ∧ committed.isOk = true) ∧
      (begun.1 = .ok () → ∀ fault, ended.1 = .error fault →
        (worked.1 = .error fault ∨
          ∃ a message, worked.1 = .ok a ∧ committed = .error message ∧
            fault = .store "committing transaction" [message]) ∧
        ∃ made, store.Called ended.2 made ∧ IsRolledBack made)) := by
  intro begun worked committed ended
  have refused (fault : Fault) (failed : begun.1 = .error fault) : ended = (.error fault, begun.2) :=
    transaction_of_refused body (Prod.ext failed rfl)
  refine ⟨refused, closed_of_transaction body, fun work => ?_⟩
  cases start : begun.1 with
  | error fault =>
      rw [refused fault start]
      refine ⟨fun a => ⟨?_, ?_⟩, ?_⟩
      · rintro ⟨⟩
      · rintro ⟨⟨⟩, -⟩
      · rintro ⟨⟩
  | ok _ =>
      obtain ⟨statements, finish, onlyWork, called, finishes⟩ := transaction_finish work start
      refine ⟨fun a => ?_, fun _ fault failed => ?_⟩
      · rw [finishes.eq_ok_iff a]
        exact ⟨fun done => ⟨rfl, done⟩, fun done => done.2⟩
      · rw [show (runOn (transaction body) store).1 = _ from failed] at finishes
        exact ⟨finishes.origin, _, called, finishes.isRolledBack onlyWork⟩

/-- A backend that takes every statement and no commit. -/
def uncommitting : Driver Unit
  | .commit, state => (.error "disk full", state)
  | call, state => answering [] call state

def noteStore : Store Unit :=
  Store.new uncommitting () .standard
    (Catalog.ofEntities fun _ => { declaration := { table := "notes", fields := [("title", none)] } })

theorem transaction_outcome_uncommitting :
    let session := transaction (create "Note" ⟨[("title", .str "plan")], by decide⟩)
    let ended := runOn session noteStore
    ended.1 = .error (.store "committing transaction" ["disk full"]) ∧
      ended.2.inTransaction = false ∧
      ∃ made, noteStore.Called ended.2 made ∧ IsRolledBack made := by
  intro session ended
  obtain ⟨-, closed, works⟩ :=
    transaction_outcome (create "Note" ⟨[("title", .str "plan")], by decide⟩) noteStore
  obtain ⟨-, rolledBack⟩ := works (onRecords_create ..)
  have failed : ended.1 = .error (.store "committing transaction" ["disk full"]) := rfl
  exact ⟨failed, closed rfl, (rolledBack rfl _ failed).2⟩

end Store

end RecordMapper
