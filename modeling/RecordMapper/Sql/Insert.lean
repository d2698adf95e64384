import RecordMapper.Sql.Fragment
/-! # INSERT

Columns and cells in the given order.  A row without any cell takes its default values. -/
set_option autoImplicit false
namespace RecordMapper.Sql

structure Insert where
  table : String
  cells : List (String × Cell)

namespace Insert

def fragments (insert : Insert) : List Fragment :=
  if insert.cells.isEmpty then
    [.text "INSERT INTO ", .name insert.table, .text " DEFAULT VALUES"]
  else
    [.text "INSERT INTO ", .name insert.table, .text " ("] ++
      Fragment.joined "," (insert.cells.map fun entry => [.name entry.1]) ++
      [.text ") VALUES ("] ++
      Fragment.joined "," (insert.cells.map fun entry => [Fragment.cell entry.2]) ++
      [.text ")"]

def statement (insert : Insert) (dialect : Dialect) : Statement :=
  Fragment.statement dialect insert.fragments

end Insert

end RecordMapper.Sql
