import RecordMapper.Proofs.Sql.Insertion
import RecordMapper.Proofs.Sql.Selection
import RecordMapper.Store.Basic
/-! # Backends with a table

A backend keeps a table if it stores what is inserted and numbers it, and answers a `SELECT` with a
stored row if it shows what the select list asks of it.  `Table.backend` is such a backend. -/
set_option autoImplicit false
namespace RecordMapper

/-! ## Cells of a row -/

namespace Row

theorem get?_append (front back : Row) (name : String) :
    Row.get? (front ++ back) name = (Row.get? back name).or (Row.get? front name) := by
  rw [get?, List.reverse_append, List.lookup_append]
  rfl

theorem get?_none {row : Row} {name : String} (absent : name ∉ row.map Prod.fst) :
    row.get? name = none := by
  rw [get?, List.lookup_eq_none_iff]
  intro entry member
  rw [bne_iff_ne]
  rintro rfl
  exact absent (List.mem_map_of_mem (List.mem_reverse.mp member))

theorem get?_some {row : Row} {name : String} {cell : Cell} (member : (name, cell) ∈ row)
    (only : ∀ other, (name, other) ∈ row → other = cell) : row.get? name = some cell := by
  cases found : row.get? name with
  | none =>
      rw [get?, List.lookup_eq_none_iff] at found
      have differs := found (name, cell) (List.mem_reverse.mpr member)
      simp at differs
  | some other =>
      obtain ⟨front, back, shape, -⟩ := List.lookup_eq_some_iff.mp found
      have inside : (name, other) ∈ row := by
        refine List.mem_reverse.mp ?_
        rw [shape]
        simp
      rw [only other inside]

end Row

/-! ## Tables -/

structure Table where
  name : String
  /-- The column of the identifiers that the backend gives. -/
  idColumn : String
  columns : List String
  idColumn_mem : idColumn ∈ columns

abbrev StoredRow := String → Cell

namespace Table
variable {σ : Type}

def stored (table : Table) (id : Int64) (cells : List (String × Cell)) : StoredRow := fun column =>
  if column = table.idColumn then .int id else (cells.lookup column).getD .null

def output (table : Table) (row : StoredRow) : Sql.Output → Row
  | .every _ => table.columns.map fun column => (column, row column)
  | .named column name => [(name, row column.name)]

def shown (table : Table) (row : StoredRow) (outputs : List Sql.Output) : Row :=
  outputs.flatMap (table.output row)

/-- The backend can read the statements of the dialect, and what is inserted it stores behind the rows
that are there, `rows` of a state being its rows. -/
structure IsKept (table : Table) (driver : Driver σ) (dialect : Sql.Dialect)
    (rows : σ → List StoredRow) : Prop where
  legible : dialect.Legible
  inserts : ∀ statement state cells,
    statement.inserted? dialect.quote = some ⟨table.name, cells⟩ →
    (∀ entry ∈ cells, entry.1 ∈ table.columns) →
    ∃ id after, driver (.insert statement) state = (.ok id, after) ∧
      rows after = rows state ++ [table.stored id cells]

def Answers (table : Table) (driver : Driver σ) (dialect : Sql.Dialect) (statement : Sql.Statement)
    (state : σ) (row : StoredRow) : Prop :=
  ∃ outputs, ∃ answer : List Row, ∃ after,
    statement.selected? dialect.quote = some ⟨table.name, outputs⟩ ∧
    driver (.query statement) state = (.ok answer, after) ∧ table.shown row outputs ∈ answer

def backend (table : Table) (quote : Char) : Driver (List StoredRow)
  | .insert statement, rows =>
    match statement.inserted? quote with
    | some insert =>
      if insert.table = table.name && insert.cells.all fun entry => table.columns.contains entry.1 then
        let id := Int64.ofNat (rows.length + 1)
        (.ok id, rows ++ [table.stored id insert.cells])
      else (.error "no such column", rows)
    | none => (.error "syntax error", rows)
  | .query statement, rows =>
    match statement.selected? quote with
    | some selection =>
      if selection.table = table.name then
        (.ok (rows.map fun row => table.shown row selection.outputs), rows)
      else (.error "no such table", rows)
    | none => (.error "syntax error", rows)
  | .exec _, rows => (.error "not supported", rows)
  | .begin, rows | .commit, rows | .rollback, rows => (.ok (), rows)

theorem isKept_backend (table : Table) (dialect : Sql.Dialect) (legible : dialect.Legible) :
    table.IsKept (table.backend dialect.quote) dialect id := by
  refine ⟨legible, fun statement rows cells inserted inside => ?_⟩
  have known : (cells.all fun entry => table.columns.contains entry.1) = true := by
    rw [List.all_eq_true]
    intro entry member
    simpa using inside entry member
  refine ⟨Int64.ofNat (rows.length + 1), _, ?_, rfl⟩
  simp only [backend, inserted, known]
  simp

theorem answers_backend (table : Table) (dialect : Sql.Dialect) {statement : Sql.Statement}
    {outputs : List Sql.Output}
    (selected : statement.selected? dialect.quote = some ⟨table.name, outputs⟩)
    {rows : List StoredRow} {row : StoredRow} (member : row ∈ rows) :
    table.Answers (table.backend dialect.quote) dialect statement rows row := by
  refine ⟨outputs, rows.map fun row => table.shown row outputs, rows, selected, ?_,
    List.mem_map_of_mem member⟩
  simp only [backend, selected, if_true]

end Table

end RecordMapper
