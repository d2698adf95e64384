import RecordMapper.Value
/-! # Declaring entities

A declaration says how records of an entity are stored; it is checked when the entity is first
used.  The hooks adjust values on their way and supply identifiers. -/
set_option autoImplicit false
namespace RecordMapper

inductive Deletion
  /-- The row is removed. -/
  | hard
  /-- A boolean field is cleared. -/
  | soft (flag : String)
deriving DecidableEq, Repr

structure Declaration where
  table : String
  idColumn : String := "id"
  /-- Names with the tags of their kinds; a field without tag is text. -/
  fields : List (String × Option String) := []
  /-- Fields whose columns have another name. -/
  renames : List (String × String) := []
  /-- The fields that are saved by default; all if not given. -/
  saveFields : Option (List String) := none
  groupBy : List String := []
  deletion : Deletion := .hard
deriving DecidableEq, Repr

structure Hooks where
  /-- Adjusts the value of a field after it is read. -/
  onLoad : String → Value → Value := fun _ value => value
  /-- Adjusts the value of a field before it is written. -/
  onStore : String → Value → Value := fun _ value => value
  /-- Supplies the identifier of a new record; without one the backend does. -/
  generateId : Values → Option Value := fun _ => none

structure Entity where
  declaration : Declaration
  hooks : Hooks := {}

end RecordMapper
