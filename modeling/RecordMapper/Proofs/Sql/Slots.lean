import RecordMapper.Proofs.Sql.Placeholders
import RecordMapper.Proofs.Sql.Token
/-! # Slots and parameters

Every cell of an `INSERT` or an `UPDATE` has a slot of its own in the text: the word `null` if it is
`NULL`, and else the placeholder whose number is counted over the cells (`Dialect.slots`,
`Insert.sql_statement`, `Update.sql_statement`).  Whatever a statement binds is not `NULL`, and it is
bound with the tag of its own sort (`Command.isNatural_params`). -/
set_option autoImplicit false
namespace RecordMapper

open Calendar (Offset)

/-! ## Tags -/

/-- Bound with the tag of its value: text and bytes as strings, and `NULL` not at all. -/
def Param.isNatural : Param → Bool
  | ⟨.integer, .int _⟩ | ⟨.float, .float _⟩ | ⟨.string, .str _⟩ | ⟨.string, .binary _⟩ => true
  | _ => false

theorem Cell.isNull_iff {cell : Cell} : cell.isNull = true ↔ cell = .null := by
  cases cell <;> simp [isNull]

theorem Cell.isNatural_param {cell : Cell} (present : cell.isNull = false) :
    cell.param.isNatural = true := by
  cases cell with
  | null => cases present
  | int n => rfl
  | float x => rfl
  | str s => rfl
  | binary bytes => rfl

theorem Value.isNatural_toParam {value : Value} {zone : Offset} {param : Param}
    (bound : value.toParam zone = some param) : param.isNatural = true := by
  cases value with
  | null => cases bound
  | _ =>
      obtain rfl := Option.some.inj bound
      exact Cell.isNatural_param rfl

namespace Sql

theorem isNatural_givenCells (cells : List (String × Cell)) :
    ∀ param ∈ givenCells cells, param.isNatural = true := by
  intro param member
  obtain ⟨entry, kept, rfl⟩ := List.mem_map.mp member
  have present := (List.mem_filter.mp kept).2
  exact Cell.isNatural_param (by simpa using present)

theorem isNatural_givenConditions (conditions : Filter.Conditions) (zone : Offset) :
    ∀ param ∈ givenConditions conditions zone, param.isNatural = true := by
  intro param member
  obtain ⟨entry, -, member⟩ := List.mem_flatMap.mp member
  obtain ⟨value, -, bound⟩ := List.mem_filterMap.mp member
  exact Value.isNatural_toParam bound

namespace Command

theorem isNatural_given (command : Command) (zone : Offset) :
    ∀ param ∈ command.given zone, param.isNatural = true := by
  intro param member
  cases command with
  | condition conditions table compose => exact isNatural_givenConditions _ _ param member
  | insert row => exact isNatural_givenCells _ param member
  | update change =>
      rcases List.mem_append.mp member with cell | condition
      · exact isNatural_givenCells _ param cell
      · exact isNatural_givenConditions _ _ param condition
  | delete removal => exact isNatural_givenConditions _ _ param member
  | select query => exact isNatural_givenConditions _ _ param member

theorem params_given (command : Command) (dialect : Dialect) :
    (command.statement dialect).params = command.given dialect.zone := by
  cases command with
  | select query =>
      have order : Fragment.params query.orderFragments = [] := by
        unfold Select.orderFragments
        split <;> rfl
      have raw : Fragment.params query.rawFragments = [] := by
        unfold Select.rawFragments
        dsimp only
        split <;> rfl
      show Fragment.params (query.fragments dialect.zone) = givenConditions query.conditions dialect.zone
      rw [query.fragments_listed, Fragment.params_append, params_select, Fragment.params_append, order,
        raw, List.append_nil, List.append_nil]
  | condition conditions table compose =>
      exact params_statement (.condition conditions table compose) trivial dialect
  | insert row => exact params_statement (.insert row) trivial dialect
  | update change => exact params_statement (.update change) trivial dialect
  | delete removal => exact params_statement (.delete removal) trivial dialect

theorem isNatural_params (command : Command) (dialect : Dialect) :
    ∀ param ∈ (command.statement dialect).params, param.isNatural = true := by
  rw [command.params_given]
  exact command.isNatural_given dialect.zone

end Command

/-! ## Texts -/

namespace Fragment

def texts (dialect : Dialect) : Nat → List (List Fragment) → List String
  | _, [] => []
  | n, part :: rest => sql dialect n part :: texts dialect (n + (params part).length) rest

theorem sql_joined (dialect : Dialect) (separator : String) (parts : List (List Fragment)) (n : Nat) :
    sql dialect n (joined separator parts) =
      String.intercalate separator (texts dialect n parts) := by
  induction parts generalizing n with
  | nil => rfl
  | cons part rest ih =>
      cases rest with
      | nil =>
          have single : joined separator [part] = part := by simp [joined]
          rw [single, texts, texts, String.intercalate_singleton]
      | cons next rest =>
          have later := ih (n + (params part).length)
          have more : texts dialect (n + (params part).length) (next :: rest) ≠ [] :=
            List.cons_ne_nil _ _
          have whole : texts dialect n (part :: next :: rest) =
            sql dialect n part :: texts dialect (n + (params part).length) (next :: rest) := rfl
          rw [joined_cons_cons, sql_append, sql, later, whole,
            String.intercalate_cons_of_ne_nil more, String.append_assoc]

end Fragment

namespace Dialect

/-- The slots of some cells, the first of them after `n` parameters. -/
def slots (dialect : Dialect) : Nat → List Cell → List String
  | _, [] => []
  | n, cell :: rest =>
    if cell.isNull then "null" :: dialect.slots n rest
    else dialect.marker (n + 1) :: dialect.slots (n + 1) rest

theorem marker_ne_null (dialect : Dialect) (n : Nat) : dialect.marker n ≠ "null" := by
  intro same
  have chars := congrArg String.toList same
  cases style : dialect.placeholder with
  | positional =>
      rw [marker_positional style] at chars
      exact absurd chars (by decide)
  | numbered =>
      rw [marker_numbered style] at chars
      exact absurd (List.cons.inj chars).1 (by decide)

theorem length_slots (dialect : Dialect) (n : Nat) (cells : List Cell) :
    (dialect.slots n cells).length = cells.length := by
  induction cells generalizing n with
  | nil => rfl
  | cons cell rest ih =>
      rw [slots]
      split
      · rw [List.length_cons, List.length_cons, ih]
      · rw [List.length_cons, List.length_cons, ih]

/-- The word `null` stands in the slots of the cells that are `NULL`, and in no other. -/
theorem slots_null_iff (dialect : Dialect) (n : Nat) (cells : List Cell) (i : Nat) :
    (dialect.slots n cells)[i]? = some "null" ↔ cells[i]? = some .null := by
  induction cells generalizing n i with
  | nil => simp [slots]
  | cons cell rest ih =>
      cases isNull : cell.isNull with
      | true =>
          obtain rfl := Cell.isNull_iff.mp isNull
          rw [slots, if_pos isNull]
          cases i with
          | zero => simp
          | succ i => exact ih n i
      | false =>
          have present : cell ≠ .null := fun null => by simp [Cell.isNull_iff.mpr null] at isNull
          rw [slots, isNull, if_neg Bool.false_ne_true]
          cases i with
          | zero => simp [present, dialect.marker_ne_null]
          | succ i => exact ih (n + 1) i

def assignments (dialect : Dialect) (n : Nat) (cells : List (String × Cell)) : List String :=
  List.zipWith (fun entry slot => dialect.quoted entry.1 ++ " = " ++ slot) cells
    (dialect.slots n (cells.map Prod.snd))

end Dialect

namespace Fragment

theorem texts_unbound {α : Type} (dialect : Dialect) {part : α → List Fragment} {text : α → String}
    (unbound : ∀ item, params (part item) = []) (written : ∀ n item, sql dialect n (part item) = text item)
    (n : Nat) (items : List α) : texts dialect n (items.map part) = items.map text := by
  induction items with
  | nil => rfl
  | cons item rest ih =>
      rw [List.map_cons, texts, unbound, written, List.length_nil, Nat.add_zero, ih, List.map_cons]

theorem texts_names (dialect : Dialect) (n : Nat) (cells : List (String × Cell)) :
    texts dialect n (cells.map fun entry => [.name entry.1]) =
      cells.map fun entry => dialect.quoted entry.1 :=
  texts_unbound dialect (fun _ => rfl) (fun _ _ => String.append_empty) n cells

theorem texts_cells (dialect : Dialect) (n : Nat) (cells : List (String × Cell)) :
    texts dialect n (cells.map fun entry => [cell entry.2]) =
      dialect.slots n (cells.map Prod.snd) := by
  induction cells generalizing n with
  | nil => rfl
  | cons entry rest ih =>
      rw [List.map_cons, texts, List.map_cons, Dialect.slots, ih, params_cell, cell]
      split
      · simp [sql]
      · simp [sql]

theorem texts_assignments (dialect : Dialect) (n : Nat) (cells : List (String × Cell)) :
    texts dialect n (cells.map Update.assignment) = dialect.assignments n cells := by
  induction cells generalizing n with
  | nil => rfl
  | cons entry rest ih =>
      have own : params (Update.assignment entry) = params [cell entry.2] := rfl
      rw [List.map_cons, texts, Dialect.assignments, List.map_cons, Dialect.slots, ih, own, params_cell,
        Update.assignment, cell, Dialect.assignments]
      split
      · simp [sql, String.append_assoc]
      · simp [sql, String.append_assoc]

end Fragment

def Insert.text (insert : Insert) (dialect : Dialect) : String :=
  if insert.cells.isEmpty then "INSERT INTO " ++ dialect.quoted insert.table ++ " DEFAULT VALUES"
  else "INSERT INTO " ++ dialect.quoted insert.table ++ " (" ++
    String.intercalate "," (insert.cells.map fun entry => dialect.quoted entry.1) ++
    ") VALUES (" ++ String.intercalate "," (dialect.slots 0 (insert.cells.map Prod.snd)) ++ ")"

theorem Insert.sql_statement (insert : Insert) (dialect : Dialect) :
    (insert.statement dialect).sql = insert.text dialect := by
  rw [Insert.statement, Fragment.statement, Insert.fragments, Insert.text]
  split
  · simp [Fragment.sql, String.append_assoc]
  · simp [Fragment.sql_append, Fragment.sql, Fragment.sql_joined, Fragment.texts_names,
      Fragment.texts_cells, params_names, String.append_assoc]

def Update.text (update : Update) (dialect : Dialect) : String :=
  "UPDATE " ++ dialect.quoted update.table ++ " SET " ++
    String.intercalate ", " (dialect.assignments 0 update.cells) ++
    Fragment.sql dialect (givenCells update.cells).length
      (Where.ofConditions update.conditions update.table update.compose dialect.zone).suffix

theorem Update.sql_statement (update : Update) (dialect : Dialect) :
    (update.statement dialect).sql = update.text dialect := by
  simp [Update.statement, Fragment.statement, Update.fragments, Update.text, Fragment.sql_append,
    Fragment.sql, Fragment.sql_joined, Fragment.texts_assignments, params_assignments,
    String.append_assoc]

end Sql

end RecordMapper
