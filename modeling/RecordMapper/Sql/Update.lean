import RecordMapper.Sql.Where
/-! # UPDATE

The assignments come first, so that their parameters precede those of the condition. -/
set_option autoImplicit false
namespace RecordMapper.Sql

open Calendar (Offset)
open RecordMapper.Filter (Conditions Connective)

structure Update where
  table : String
  cells : List (String × Cell)
  conditions : Conditions
  compose : Connective

namespace Update

def assignment (entry : String × Cell) : List Fragment :=
  [.name entry.1, .text " = ", Fragment.cell entry.2]

def fragments (update : Update) (zone : Offset) : List Fragment :=
  [.text "UPDATE ", .name update.table, .text " SET "] ++
    Fragment.joined ", " (update.cells.map assignment) ++
    (Where.ofConditions update.conditions update.table update.compose zone).suffix

def statement (update : Update) (dialect : Dialect) : Statement :=
  Fragment.statement dialect (update.fragments dialect.zone)

end Update

end RecordMapper.Sql
