import RecordMapper.Entity.Declaration
import RecordMapper.Fault
/-! # Schemas

A schema is what a declaration comes to when it is valid: a table with a name, distinct fields that
leave the identifier alone, known kinds, and no rename, save field, grouping or flag that names
another field.  `Declaration.schema` reports the first fault in this order. -/
set_option autoImplicit false
namespace RecordMapper

structure Field where
  name : String
  kind : Kind
  column : String
deriving DecidableEq, Repr

structure Schema where
  table : String
  idColumn : String
  fields : List Field
  saveFields : List String
  groupBy : List String
  deletion : Deletion
deriving DecidableEq, Repr

namespace Schema

def field? (schema : Schema) (name : String) : Option Field :=
  schema.fields.find? fun field => field.name = name

/-- The column of a field.  Any other name, the identifier's included, is its own column. -/
def column (schema : Schema) (name : String) : String :=
  (schema.field? name).elim name Field.column

def knows (schema : Schema) (name : String) : Bool :=
  name == schema.idColumn || (schema.field? name).isSome

def hasFields (schema : Schema) (names : List String) : Bool := names.all schema.knows

def checkFields (schema : Schema) (names : List String) : Except Misuse Unit :=
  match names.find? fun name => !schema.knows name with
  | some name => .error (.unknownField schema.table name)
  | none => .ok ()

/-- The select list for reading: all columns, and each renamed one once more under its field's
name; no list if nothing is renamed. -/
def selectFields (schema : Schema) : List String :=
  let renamed := schema.fields.filter fun field => field.column != field.name
  if renamed.isEmpty then []
  else "*" :: renamed.map fun field => field.column ++ " -> " ++ field.name

end Schema

namespace Declaration

def kindOf (table name : String) : Option String → Except Misuse Kind
  | none => .ok .string
  | some tag =>
    match Kind.ofTag? tag with
    | some kind => .ok kind
    | none => .error (.unknownFieldKind table name tag)

/-- The fields in declared order, in columns of their own names; `seen` are the names before. -/
def fieldsAfter (declaration : Declaration) (seen : List String) :
    List (String × Option String) → Except Misuse (List Field)
  | [] => .ok []
  | (name, tag) :: rest => do
    if name = declaration.idColumn then
      throw (.declaredIdentifier declaration.table name)
    if seen.contains name then throw (.declaredTwice declaration.table name)
    let kind ← kindOf declaration.table name tag
    let later ← declaration.fieldsAfter (name :: seen) rest
    pure (⟨name, kind, name⟩ :: later)

def renameField (name column : String) (fields : List Field) : List Field :=
  fields.map fun field => if field.name = name then { field with column := column } else field

/-- The fields with their renames applied, later ones over earlier ones. -/
def applyRenames (table : String) (fields : List Field) :
    List (String × String) → Except Misuse (List Field)
  | [] => .ok fields
  | (name, column) :: rest =>
    if fields.any fun field => field.name = name then
      applyRenames table (renameField name column fields) rest
    else .error (.renamedUnknown table name)

def checkDeclared (table : String) (fields : List Field) (names : List String) :
    Except Misuse Unit :=
  match names.find? fun name => !fields.any fun field => field.name = name with
  | some name => .error (.unknownField table name)
  | none => .ok ()

def checkDeletion (table : String) (fields : List Field) : Deletion → Except Misuse Unit
  | .hard => .ok ()
  | .soft flag =>
    match fields.find? fun field => field.name = flag with
    | none => .error (.flagUnknown table flag)
    | some field => if field.kind = .bool then .ok () else .error (.flagNotBool table flag)

def schema (declaration : Declaration) : Except Misuse Schema := do
  if (Text.trim declaration.table).isEmpty then throw .emptyTable
  let declared ← declaration.fieldsAfter [] declaration.fields
  let fields ← applyRenames declaration.table declared declaration.renames
  let saveFields := declaration.saveFields.getD (fields.map Field.name)
  checkDeclared declaration.table fields (saveFields ++ declaration.groupBy)
  checkDeletion declaration.table fields declaration.deletion
  pure
    { table := declaration.table
      idColumn := declaration.idColumn
      fields := fields
      saveFields := saveFields
      groupBy := declaration.groupBy
      deletion := declaration.deletion }

end Declaration

end RecordMapper
