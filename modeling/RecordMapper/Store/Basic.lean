import RecordMapper.Config
import RecordMapper.Entity.Registry
import RecordMapper.Sql.Fragment
/-! # Stores

A store sends statements to a backend.  The backend is any function from calls and a state of its
own to replies, so that what is said of stores holds however a backend answers.  The store keeps a
journal of its calls, each with its success, and of its warnings. -/
set_option autoImplicit false
namespace RecordMapper

inductive Call
  | query (statement : Sql.Statement)
  | exec (statement : Sql.Statement)
  | insert (statement : Sql.Statement)
  | begin
  | commit
  | rollback
deriving DecidableEq

namespace Call

/-- What a successful call returns: rows, the number of rows affected, or the identifier of the
new row. -/
def Reply : Call → Type
  | .query _ => List Row
  | .exec _ => Nat
  | .insert _ => Int64
  | .begin | .commit | .rollback => Unit

end Call

/-- A backend with states `σ`: the reply to a call, or a message of failure, and the next state. -/
abbrev Driver (σ : Type) := (call : Call) → σ → Except String call.Reply × σ

inductive Warning
  | searchFailed (table : String) (message : String)
  | rowSkipped (table : String) (row : Nat) (fault : Fault)
  | rollbackFailed (fault : Fault)
deriving DecidableEq

def Warning.message : Warning → String
  | .searchFailed _ _ => "search failed, returning no records"
  | .rowSkipped _ _ _ => "skipping row"
  | .rollbackFailed _ => "rollback failed"

inductive Event
  | call (call : Call) (succeeded : Bool)
  | warning (warning : Warning)
deriving DecidableEq

structure Store (σ : Type) where
  driver : Driver σ
  backend : σ
  dialect : Sql.Dialect
  catalog : Catalog
  registry : Registry
  inTransaction : Bool
  journal : List Event

namespace Store
variable {σ : Type}

def new (driver : Driver σ) (backend : σ) (dialect : Sql.Dialect) (catalog : Catalog) :
    Store σ where
  driver := driver
  backend := backend
  dialect := dialect
  catalog := catalog
  registry := OrderedMap.empty
  inTransaction := false
  journal := []

def record (store : Store σ) (event : Event) : Store σ :=
  { store with journal := store.journal ++ [event] }

def ask (store : Store σ) (call : Call) : Except String call.Reply × Store σ :=
  let (reply, backend) := store.driver call store.backend
  (reply, { store with backend := backend }.record (.call call reply.isOk))

def hooks (store : Store σ) (entity : String) : Hooks := (store.catalog.entity entity).hooks

end Store

end RecordMapper
