import RecordMapper.Entity.Schema
import RecordMapper.Sql.Select
/-! # Searches

A search names fields; `Search.select` is the statement that asks for them, with the column of each
field in place of its name. -/
set_option autoImplicit false
namespace RecordMapper

open RecordMapper.Filter (Conditions Connective Key Operand)

structure Search where
  conditions : Conditions := OrderedMap.empty
  compose : Connective := .and
  /-- Terms that are written as they are. -/
  orderBy : List String := []
  /-- Text at the very end. -/
  raw : Option String := none

namespace Search

def filter (search : Search) (key : String) (operand : Operand) : Search :=
  { search with conditions := search.conditions.insert key operand }

def limitOne (search : Search) : Search :=
  { search with raw := some ("LIMIT 1 " ++ search.raw.getD "") }

end Search

namespace Schema

/-- A key aimed at the column of its field.  A key whose field has a column of the same name stays
as it is written. -/
def columnKey (schema : Schema) (raw : String) : String :=
  let key := Key.ofText raw
  let column := schema.column key.field
  if column = key.field then raw else (key.withField column).text

def columnConditions (schema : Schema) (conditions : Conditions) : Conditions :=
  OrderedMap.ofList (conditions.entries.map fun entry => (schema.columnKey entry.1, entry.2))

end Schema

def Search.select (search : Search) (schema : Schema) : Sql.Select where
  table := schema.table
  fields := schema.selectFields.map Sql.SelectField.ofText
  conditions := schema.columnConditions search.conditions
  compose := search.compose
  groupBy := schema.groupBy.map schema.column
  orderBy := search.orderBy
  raw := search.raw

end RecordMapper
