import RecordMapper.Sql.Where
/-! # DELETE -/
set_option autoImplicit false
namespace RecordMapper.Sql

open Calendar (Offset)
open RecordMapper.Filter (Conditions Connective)

structure Delete where
  table : String
  conditions : Conditions
  compose : Connective

namespace Delete

def fragments (delete : Delete) (zone : Offset) : List Fragment :=
  [.text "DELETE FROM ", .name delete.table] ++
    (Where.ofConditions delete.conditions delete.table delete.compose zone).suffix

def statement (delete : Delete) (dialect : Dialect) : Statement :=
  Fragment.statement dialect (delete.fragments dialect.zone)

end Delete

end RecordMapper.Sql
