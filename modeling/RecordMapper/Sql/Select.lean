import RecordMapper.Sql.Where
import RecordMapper.Text.Blank
/-! # SELECT

An entry of the select list is a column, or `#` and a column to be counted, and may name its output
after an arrow: `name`, `*`, `#id`, `full_name -> name`, `#id -> total`.  An output name that
repeats the column's own is dropped. -/
set_option autoImplicit false
namespace RecordMapper.Sql

open Calendar (Offset)
open RecordMapper.Filter (Conditions Connective)

structure SelectField where
  column : String
  outputName : Option String
  count : Bool
deriving DecidableEq, Repr

namespace SelectField

def splitArrow : List Char → Option (List Char × List Char)
  | [] => none
  | '-' :: '>' :: rest => some ([], rest)
  | c :: rest => (splitArrow rest).map fun (before, after) => (c :: before, after)

def ofText (entry : String) : SelectField :=
  let (source, output) := match splitArrow entry.toList with
    | some (source, output) => (Text.trimChars source, some (String.ofList (Text.trimChars output)))
    | none => (Text.trimChars entry.toList, none)
  let (column, count) := match source with
    | '#' :: column => (String.ofList column, true)
    | column => (String.ofList column, false)
  { column := column, outputName := output.filter (· != column), count := count }

def expression (field : SelectField) (table : String) : List Fragment :=
  let column :=
    if field.column = "*" then
      if table.isEmpty then [.text "*"] else [.name table, .text ".*"]
    else Fragment.column table field.column
  if field.count then [.text "COUNT("] ++ column ++ [.text ")"] else column

def fragments (field : SelectField) (table : String) : List Fragment :=
  match field.outputName with
  | some output => field.expression table ++ [.text " AS ", .name output]
  | none => field.expression table

end SelectField

structure Select where
  table : String
  /-- All columns if empty. -/
  fields : List SelectField
  conditions : Conditions
  compose : Connective
  groupBy : List String
  /-- Terms that are written as they are. -/
  orderBy : List String
  /-- Text at the very end. -/
  raw : Option String

namespace Select

def fieldFragments (select : Select) : List Fragment :=
  if select.fields.isEmpty then [.text "*"]
  else Fragment.joined ", " (select.fields.map fun field => field.fragments select.table)

/-- Grouping is by expressions, which have no output names. -/
def groupFragments (select : Select) : List Fragment :=
  if select.groupBy.isEmpty then []
  else .text " GROUP BY " :: Fragment.joined ", "
    (select.groupBy.map fun entry => (SelectField.ofText entry).expression select.table)

def orderFragments (select : Select) : List Fragment :=
  if select.orderBy.isEmpty then []
  else [.text " ORDER BY ", .text (String.intercalate "," select.orderBy)]

def rawFragments (select : Select) : List Fragment :=
  let raw := Text.trim (select.raw.getD "")
  if raw.isEmpty then [] else [.text " ", .text raw]

def fragments (select : Select) (zone : Offset) : List Fragment :=
  [.text "SELECT "] ++ select.fieldFragments ++ [.text " FROM ", .name select.table] ++
    (Where.ofConditions select.conditions select.table select.compose zone).suffix ++
    select.groupFragments ++ select.orderFragments ++ select.rawFragments

def statement (select : Select) (dialect : Dialect) : Statement :=
  Fragment.statement dialect (select.fragments dialect.zone)

end Select

end RecordMapper.Sql
