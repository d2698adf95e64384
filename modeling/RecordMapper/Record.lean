import RecordMapper.Entity.Schema
/-! # Records

A record holds an identifier and one value per field of its schema, in the order of the schema.
Values change through `set` and `setFields` only; `setFields` checks every name before it changes
anything. -/
set_option autoImplicit false
namespace RecordMapper

structure Record where
  /-- The name of the entity, whose hooks apply when the record is saved. -/
  entity : String
  schema : Schema
  /-- `NULL` until the record is stored. -/
  id : Value
  values : List Value

inductive Place
  | identifier
  | position (index : Nat)
deriving DecidableEq, Repr

namespace Schema

def position? (schema : Schema) (name : String) : Option Nat :=
  schema.fields.findIdx? fun field => field.name = name

def place (schema : Schema) (name : String) : Except Misuse Place :=
  if name = schema.idColumn then .ok .identifier
  else match schema.position? name with
    | some index => .ok (.position index)
    | none => .error (.unknownField schema.table name)

end Schema

namespace Record

def blank (entity : String) (schema : Schema) (id : Value) : Record where
  entity := entity
  schema := schema
  id := id
  values := List.replicate schema.fields.length .null

def intId? (record : Record) : Option Int64 := record.id.int?

def read (record : Record) : Place → Value
  | .identifier => record.id
  | .position index => (record.values[index]?).getD .null

def value? (record : Record) (name : String) : Option Value :=
  (record.schema.position? name).map fun index => record.read (.position index)

def get (record : Record) (name : String) : Except Misuse Value :=
  (record.schema.place name).map record.read

def fieldValues (record : Record) : List (String × Value) :=
  (record.schema.fields.map Field.name).zip record.values

/-- The values of the named fields, each name once; of all fields if no names are given. -/
def getFields (record : Record) (names : Option (List String)) : Except Misuse Values :=
  match names with
  | none => .ok (OrderedMap.ofList record.fieldValues)
  | some names => do
    let pairs ← names.mapM fun name => (record.get name).map fun value => (name, value)
    pure (OrderedMap.ofList pairs)

def set (record : Record) (name : String) (value : Value) : Except Misuse Record :=
  if name = record.schema.idColumn then .error (.identifierSet record.schema.table name)
  else match record.schema.position? name with
    | some index => .ok { record with values := record.values.set index value }
    | none => .error (.unknownField record.schema.table name)

def setFields (record : Record) (values : Values) : Except Misuse Record := do
  record.schema.checkFields values.keys
  if values.contains record.schema.idColumn then
    throw (.identifierSet record.schema.table record.schema.idColumn)
  values.entries.foldlM (fun record entry => record.set entry.1 entry.2) record

/-- The soft-delete flag is set; records without such a flag are always active. -/
def isActive (record : Record) : Bool :=
  match record.schema.deletion with
  | .hard => true
  | .soft flag => (record.value? flag).any (· == .bool true)

def toJson (record : Record) : Json :=
  Json.ofMembers ((record.schema.idColumn, record.id.toJson) ::
    record.fieldValues.map fun entry => (entry.1, entry.2.toJson))

end Record

end RecordMapper
