import RecordMapper.Proofs.Store.Known
/-! # Calls in the journal

The journal of a store grows at its end, and what a session adds to it tells which calls the session
made (`Store.Called`). -/
set_option autoImplicit false
namespace RecordMapper

namespace Event

def call? : Event → Option (Call × Bool)
  | .call sent succeeded => some (sent, succeeded)
  | .warning _ => none

def calls (events : List Event) : List (Call × Bool) := events.filterMap call?

@[simp] theorem calls_nil : calls [] = [] := rfl

@[simp] theorem calls_append (front back : List Event) :
    calls (front ++ back) = calls front ++ calls back := List.filterMap_append

@[simp] theorem calls_call (sent : Call) (succeeded : Bool) (rest : List Event) :
    calls (.call sent succeeded :: rest) = (sent, succeeded) :: calls rest := rfl

@[simp] theorem calls_warning (given : Warning) (rest : List Event) :
    calls (.warning given :: rest) = calls rest := rfl

end Event

namespace Call

def isStatement : Call → Bool
  | .query _ | .exec _ | .insert _ => true
  | .begin | .commit | .rollback => false

def isWrite : Call → Bool
  | .exec _ | .insert _ => true
  | .query _ | .begin | .commit | .rollback => false

end Call

namespace Store
open Session (runOn)
open Event (calls)
variable {σ : Type}

/-- The store has come to be `after`, and made these calls on the way. -/
def Called (store after : Store σ) (made : List (Call × Bool)) : Prop :=
  ∃ events, after.journal = store.journal ++ events ∧ calls events = made

theorem Called.refl (store : Store σ) : store.Called store [] :=
  ⟨[], (List.append_nil _).symm, rfl⟩

theorem Called.trans {store middle after : Store σ} {first second : List (Call × Bool)}
    (here : store.Called middle first) (there : middle.Called after second) :
    store.Called after (first ++ second) := by
  obtain ⟨events, journal, rfl⟩ := here
  obtain ⟨later, journal', rfl⟩ := there
  refine ⟨events ++ later, ?_, Event.calls_append events later⟩
  rw [journal', journal, List.append_assoc]

theorem Called.unique {store after : Store σ} {first second : List (Call × Bool)}
    (called : store.Called after first) (again : store.Called after second) : first = second := by
  obtain ⟨events, journal, rfl⟩ := called
  obtain ⟨others, journal', rfl⟩ := again
  rw [List.append_cancel_left (journal.symm.trans journal')]

theorem Called.calls_journal {store after : Store σ} {made : List (Call × Bool)}
    (called : store.Called after made) : calls after.journal = calls store.journal ++ made := by
  obtain ⟨events, journal, rfl⟩ := called
  rw [journal, Event.calls_append]

theorem ask_of_reply (store : Store σ) {call : Call} {reply : Except String call.Reply} {state : σ}
    (answered : store.driver call store.backend = (reply, state)) :
    store.ask call = (reply, { store with backend := state }.record (.call call reply.isOk)) := by
  rw [ask, answered]

theorem journal_ask (store : Store σ) (call : Call) :
    (store.ask call).2.journal = store.journal ++ [.call call (store.ask call).1.isOk] := rfl

theorem called_ask (store : Store σ) (call : Call) :
    store.Called (store.ask call).2 [(call, (store.ask call).1.isOk)] :=
  ⟨_, journal_ask store call, rfl⟩

theorem called_require (context : String) (call : Call) (store : Store σ) :
    ∃ succeeded, store.Called (runOn (require context call) store).2 [(call, succeeded)] := by
  have asked := called_ask store call
  rw [runOn_require]
  generalize store.ask call = reply at asked
  obtain ⟨message | reply, after⟩ := reply
  · exact ⟨_, asked⟩
  · exact ⟨_, asked⟩

theorem called_warning (store : Store σ) (warning : Warning) :
    store.Called (store.record (.warning warning)) [] :=
  ⟨_, rfl, rfl⟩

theorem called_schema (entity : String) (store : Store σ) :
    store.Called (runOn (Store.schema entity) store).2 [] :=
  ⟨[], by rw [(agrees_schema entity store).journal, List.append_nil], rfl⟩

theorem exists_looked {entity : String} {store : Store σ} {schema : Schema}
    (known : (runOn (Store.schema entity) store).1 = .ok schema) :
    ∃ after, runOn (Store.schema entity) store = (.ok schema, after) ∧ store.Agrees after ∧
      store.Called after [] := by
  have called := called_schema entity store
  obtain ⟨after, found, agrees, -⟩ := exists_known known
  rw [found] at called
  exact ⟨after, found, agrees, called⟩

end Store

end RecordMapper
