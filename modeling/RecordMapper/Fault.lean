import RecordMapper.Calendar.Zone
import RecordMapper.Conversion
/-! # Faults

What can go wrong, in three tiers.  A misuse lies in a declaration, a configuration or a call and
will recur; a conversion fault lies in a value; a store fault comes from the backend and carries
the contexts in which it arose, outermost first. -/
set_option autoImplicit false
namespace RecordMapper

inductive Misuse
  | badQuote (quote : String)
  | badPlaceholder (placeholder : String)
  | badZone (zone : String) (fault : Calendar.OffsetFault)
  | unknownKind (tag : String)
  | emptyTable
  | declaredIdentifier (table field : String)
  | declaredTwice (table field : String)
  | unknownFieldKind (table field tag : String)
  | renamedUnknown (table field : String)
  | unknownField (table field : String)
  | flagNotBool (table flag : String)
  | flagUnknown (table flag : String)
  | identifierSet (table field : String)
  | identifierWritten (table field : String)
  | savedWithoutIdentifier (table : String)
  | deletedWithoutIdentifier (table : String)
  | nullIdentifier (table : String)
  | noSoftDelete (table : String)
  | transactionOpen
  | nothingToCommit
  | nothingToRollBack
  /-- Raised by the code inside a transaction. -/
  | raised (message : String)
deriving DecidableEq

namespace Misuse

def tick (name : String) : String := "`" ++ name ++ "`"

def message : Misuse → String
  | .badQuote quote => "quote must be a single character, got " ++ tick quote
  | .badPlaceholder placeholder =>
    "unsupported placeholder " ++ tick placeholder ++ ", expected `?` or `$`"
  | .badZone zone fault =>
    "invalid time zone " ++ tick zone ++ ": " ++ fault.message ++
      "; expected `UTC` or a fixed `±HH:MM` offset"
  | .unknownKind tag => "unknown field type " ++ tick tag
  | .emptyTable => "entity table name is empty"
  | .declaredIdentifier table field =>
    tick table ++ ": field " ++ tick field ++ " is the identifier column and cannot be declared"
  | .declaredTwice table field => tick table ++ ": field " ++ tick field ++ " declared twice"
  | .unknownFieldKind table field tag =>
    tick table ++ "." ++ tick field ++ ": unknown field type " ++ tick tag
  | .renamedUnknown table field => tick table ++ ": cannot rename unknown field " ++ tick field
  | .unknownField table field => tick table ++ ": unknown field " ++ tick field
  | .flagNotBool table flag =>
    tick table ++ ": soft-delete flag " ++ tick flag ++ " must be a bool field"
  | .flagUnknown table flag => tick table ++ ": unknown soft-delete flag " ++ tick flag
  | .identifierSet table field =>
    tick table ++ ": the identifier " ++ tick field ++ " cannot be set"
  | .identifierWritten table field =>
    tick table ++ ": the identifier " ++ tick field ++ " cannot be written directly"
  | .savedWithoutIdentifier table => tick table ++ ": cannot save a record without an identifier"
  | .deletedWithoutIdentifier table =>
    tick table ++ ": cannot delete a record without an identifier"
  | .nullIdentifier table => tick table ++ ": generated identifier is null"
  | .noSoftDelete table => tick table ++ " has no soft-delete flag"
  | .transactionOpen => "a transaction is already open; transactions do not nest"
  | .nothingToCommit => "no transaction to commit"
  | .nothingToRollBack => "no transaction to roll back"
  | .raised message => message

end Misuse

inductive Fault
  | misuse (cause : Misuse)
  | conversion (field : String) (cause : ConversionFault)
  | store (context : String) (causes : List String)
deriving DecidableEq

namespace Fault

/-- The fault lies in the program and not in the backend. -/
def isFatal : Fault → Bool
  | .store _ _ => false
  | _ => true

/-- The message; of a store fault only the outermost context. -/
def message : Fault → String
  | .misuse cause => "configuration error: " ++ cause.message
  | .conversion field cause => "failed to convert field `" ++ field ++ "`: " ++ cause.message
  | .store context _ => context

def chain : Fault → String
  | .store context causes => String.intercalate ": " (context :: causes)
  | fault => fault.message

end Fault

end RecordMapper
