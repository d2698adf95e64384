import RecordMapper.Calendar.Timestamp
/-! # Dialects -/
set_option autoImplicit false
namespace RecordMapper.Sql

inductive Placeholder
  | positional
  | numbered
deriving DecidableEq, Repr

structure Dialect where
  quote : Char
  placeholder : Placeholder
  zone : Calendar.Offset
deriving DecidableEq

namespace Dialect

def standard : Dialect := ⟨'\x60', .positional, Calendar.Offset.utc⟩

instance : Inhabited Dialect := ⟨standard⟩

/-- The characters of an identifier with each quote doubled. -/
def doubled (quote : Char) : List Char → List Char
  | [] => []
  | c :: rest => if c = quote then quote :: quote :: doubled quote rest else c :: doubled quote rest

def quoted (dialect : Dialect) (name : String) : String :=
  String.ofList (dialect.quote :: doubled dialect.quote name.toList ++ [dialect.quote])

/-- The placeholder of the `n`-th parameter, counted from 1. -/
def marker (dialect : Dialect) (n : Nat) : String :=
  match dialect.placeholder with
  | .positional => "?"
  | .numbered => "$" ++ toString n

end Dialect

end RecordMapper.Sql
