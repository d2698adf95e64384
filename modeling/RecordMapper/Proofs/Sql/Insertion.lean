import RecordMapper.Proofs.Sql.Command
import RecordMapper.Proofs.Sql.Expression
/-! # Rows as a backend reads them

`Statement.inserted?` reads the table of an `INSERT`, its columns and their cells.  What is read of the
statement that an `Insert` is built into is the `Insert` again (`inserted?_statement`). -/
set_option autoImplicit false
namespace RecordMapper.Sql

open Fragment (joined tokens)

abbrev Item (α : Type) := Token → Option α

namespace Item

def column : Item String
  | .name column => some column
  | _ => none

def cell : Item Cell
  | .word "NULL" => some .null
  | .value param => some param.value
  | _ => none

end Item

namespace Parser

def list {α : Type} (item : Item α) : Parser (List α)
  | token :: .sign ")" :: rest => (item token).map fun found => ([found], rest)
  | token :: .sign "," :: rest => do
    let found ← item token
    let (others, rest) ← list item rest
    pure (found :: others, rest)
  | _ => none

end Parser

def paired (columns : List String) (cells : List Cell) : Option (List (String × Cell)) :=
  if columns.length = cells.length then some (columns.zip cells) else none

def insertion : List Token → Option Insert
  | [.word "INSERT", .word "INTO", .name table, .word "DEFAULT", .word "VALUES"] =>
    some ⟨table, []⟩
  | .word "INSERT" :: .word "INTO" :: .name table :: .sign "(" :: tokens => do
    match ← Parser.list Item.column tokens with
    | (columns, .word "VALUES" :: .sign "(" :: tokens) =>
      match ← Parser.list Item.cell tokens with
      | (cells, []) => (paired columns cells).map (⟨table, ·⟩)
      | _ => none
    | _ => none
  | _ => none

/-- The row that a statement inserts. -/
def Statement.inserted? (statement : Statement) (quote : Char) : Option Insert :=
  (statement.tokens? quote).bind insertion

/-! ## Lists -/

def commas (items : List Token) : List Token :=
  List.intercalate [.sign ","] (items.map fun token => [token])

section
variable {α : Type} (found : List α) (token : α → Token)

theorem tokens_commas (piece : α → Fragment)
    (single : ∀ a ∈ found, tokens [piece a] = [token a]) :
    tokens (joined "," (found.map fun a => [piece a])) = commas (found.map token) := by
  rw [Fragment.tokens_joined, textTokens_comma, commas, List.map_map, List.map_map]
  exact congrArg _ (List.map_congr_left single)

theorem list_commas {β : Type} (item : Item β) (value : α → β) (some' : found ≠ [])
    (reads : ∀ a ∈ found, item (token a) = some (value a)) (rest : List Token) :
    Parser.list item (commas (found.map token) ++ .sign ")" :: rest) =
      some (found.map value, rest) := by
  induction found with
  | nil => exact absurd rfl some'
  | cons a others ih =>
      have here := reads a (List.mem_cons_self ..)
      cases others with
      | nil =>
          show (item (token a)).map _ = _
          rw [here]
          rfl
      | cons next others =>
          have there := ih (List.cons_ne_nil _ _)
            fun other member => reads other (List.mem_cons_of_mem a member)
          have shape : commas ((a :: next :: others).map token) ++ .sign ")" :: rest =
              token a :: .sign "," :: (commas ((next :: others).map token) ++ .sign ")" :: rest) := by
            simp [commas, List.intercalate_cons_cons]
          rw [shape, Parser.list, here, there]
          rfl

end

/-! ## Statements -/

def cellToken (cell : Cell) : Token := if cell.isNull then .word "NULL" else .value cell.param

theorem tokens_cell (cell : Cell) : tokens [Fragment.cell cell] = [cellToken cell] := by
  have null : textTokens "null" = [.word "NULL"] := by decide
  unfold Fragment.cell cellToken
  split
  · rw [Fragment.tokens_text, null]
    rfl
  · rfl

theorem cell_cellToken (cell : Cell) : Item.cell (cellToken cell) = some cell := by
  cases cell <;> rfl

theorem paired_entries (cells : List (String × Cell)) :
    paired (cells.map Prod.fst) (cells.map Prod.snd) = some cells := by
  have zipped := List.zip_unzip cells
  rw [List.unzip_eq_map] at zipped
  rw [paired, if_pos (by simp), zipped]

/-- The statement of a row, its columns and its cells in the same order. -/
def Insert.filled (insert : Insert) : List Token :=
  if insert.cells.isEmpty then
    [.word "INSERT", .word "INTO", .name insert.table, .word "DEFAULT", .word "VALUES"]
  else
    .word "INSERT" :: .word "INTO" :: .name insert.table :: .sign "(" ::
      (commas (insert.cells.map fun entry => .name entry.1) ++ .sign ")" :: .word "VALUES" ::
        .sign "(" :: (commas (insert.cells.map fun entry => cellToken entry.2) ++ [.sign ")"]))

theorem tokens_insert (insert : Insert) : tokens insert.fragments = insert.filled := by
  have columns := tokens_commas insert.cells (fun entry => .name entry.1)
    (fun entry => .name entry.1) fun _ _ => rfl
  have cells := tokens_commas insert.cells (fun entry => cellToken entry.2)
    (fun entry => Fragment.cell entry.2) fun entry _ => tokens_cell entry.2
  have defaults : textTokens " DEFAULT VALUES" = [.word "DEFAULT", .word "VALUES"] := by decide
  have opened : textTokens " (" = [.sign "("] := by decide
  have between : textTokens ") VALUES (" = [.sign ")", .word "VALUES", .sign "("] := by decide
  unfold Insert.fragments Insert.filled
  split
  · simp [defaults]
  · simp [columns, cells, opened, between]

theorem insertion_filled (insert : Insert) : insertion insert.filled = some insert := by
  obtain ⟨table, cells⟩ := insert
  unfold Insert.filled
  split
  · next none =>
      obtain rfl : cells = [] := List.isEmpty_iff.mp none
      rfl
  · next some' =>
      have given : cells ≠ [] := by simpa using some'
      have columns := list_commas cells (fun entry => .name entry.1) Item.column Prod.fst given
        (fun _ _ => rfl)
      have values := list_commas cells (fun entry => cellToken entry.2) Item.cell Prod.snd given
        (fun entry _ => cell_cellToken entry.2) []
      simp only [insertion, columns, values, paired_entries, Option.bind_eq_bind, Option.bind_some,
        Option.map_some]

theorem inserted?_statement (insert : Insert) {dialect : Dialect} (legible : dialect.Legible) :
    (insert.statement dialect).inserted? dialect.quote = some insert := by
  rw [Statement.inserted?, Insert.statement,
    Fragment.tokens?_statement legible _ (spaced_insert insert), tokens_insert]
  exact insertion_filled insert

end RecordMapper.Sql
