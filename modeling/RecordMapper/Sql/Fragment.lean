import RecordMapper.Cell
import RecordMapper.Sql.Dialect
/-! # Statements in pieces

A statement is put together from pieces of three sorts: fixed text, identifiers and parameters.
Text and parameters of the finished statement are both read off the same list of pieces, so that
the k-th placeholder stands where the k-th parameter belongs, and no value gets into the text. -/
set_option autoImplicit false
namespace RecordMapper.Sql

inductive Fragment
  | text (s : String)
  | name (identifier : String)
  | bind (param : Param)
deriving DecidableEq

/-- The text of a statement and its parameters in the order of their placeholders. -/
structure Statement where
  sql : String
  params : List Param
deriving DecidableEq, Inhabited

namespace Fragment

def param? : Fragment → Option Param
  | .bind param => some param
  | _ => none

def params (pieces : List Fragment) : List Param := pieces.filterMap param?

/-- The text of some pieces after `n` parameters. -/
def sql (dialect : Dialect) (n : Nat) : List Fragment → String
  | [] => ""
  | .text s :: rest => s ++ sql dialect n rest
  | .name identifier :: rest => dialect.quoted identifier ++ sql dialect n rest
  | .bind _ :: rest => dialect.marker (n + 1) ++ sql dialect (n + 1) rest

def joined (separator : String) (parts : List (List Fragment)) : List Fragment :=
  List.intercalate [.text separator] parts

def statement (dialect : Dialect) (pieces : List Fragment) : Statement :=
  ⟨sql dialect 0 pieces, params pieces⟩

def cell (c : Cell) : Fragment := if c.isNull then .text "null" else .bind c.param

/-- A column, qualified by its table unless that is empty. -/
def column (table name : String) : List Fragment :=
  if table.isEmpty then [.name name] else [.name table, .text ".", .name name]

end Fragment

end RecordMapper.Sql
