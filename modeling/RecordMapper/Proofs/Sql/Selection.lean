import RecordMapper.Proofs.Sql.Command
import RecordMapper.Proofs.Sql.Meaning
import RecordMapper.Proofs.Sql.Placeholders
/-! # Select lists as a backend reads them

`Statement.selected?` reads the table of a `SELECT` and what is asked of each of its rows, and nothing
behind the table.  It finds what the `Select` was built from, whatever is written at the end of the
statement (`selected?_statement`). -/
set_option autoImplicit false
namespace RecordMapper.Sql

open Calendar (Offset)
open RecordMapper.Filter (Column)
open Fragment (Follows Spaced joined tokens)

/-- What a select list asks of a row. -/
inductive Output
  | every (table : Option String)
  | named (column : Column) (name : String)
deriving DecidableEq

structure Selection where
  table : String
  outputs : List Output
deriving DecidableEq

def Output.isOf (table : String) : Output → Bool
  | .every source => source.all (· == table)
  | .named column _ => column.table.all (· == table)

namespace Parser

def renamed (found : Column) : List Token → Output × List Token
  | .word "AS" :: .name name :: rest => (.named found name, rest)
  | rest => (.named found found.name, rest)

def output : Parser Output
  | .sign "*" :: rest => some (.every none, rest)
  | .name table :: .sign "." :: .sign "*" :: rest => some (.every (some table), rest)
  | tokens => (column tokens).map fun (found, rest) => renamed found rest

/-- Outputs with commas between them, up to the word in front of the table; each step reads one. -/
def outputs : Nat → Parser (List Output)
  | 0, _ => none
  | steps + 1, tokens => do
    match ← output tokens with
    | (first, .word "FROM" :: rest) => some ([first], rest)
    | (first, .sign "," :: rest) => do
      let (others, rest) ← outputs steps rest
      pure (first :: others, rest)
    | _ => none

end Parser

def selection : List Token → Option Selection
  | .word "SELECT" :: tokens => do
    match ← Parser.outputs tokens.length tokens with
    | (outputs, .name table :: _) =>
      if outputs.all (Output.isOf table) then some ⟨table, outputs⟩ else none
    | _ => none
  | _ => none

def Statement.selected? (statement : Statement) (quote : Char) : Option Selection :=
  (statement.tokens? quote).bind selection

/-! ## Entries of the list -/

namespace SelectField

def IsOutput (field : SelectField) : Prop :=
  field.count = false ∧ (field.column = "*" → field.outputName = none)

def output (field : SelectField) (table : String) : Output :=
  if field.column = "*" then .every (if table.isEmpty then none else some table)
  else .named (Column.of table field.column) (field.outputName.getD field.column)

theorem output_isOf (field : SelectField) (table : String) :
    (field.output table).isOf table = true := by
  unfold output Column.of
  split
  · split <;> simp [Output.isOf]
  · split <;> simp [Output.isOf]

theorem tokens_star (table : String) :
    tokens ((⟨"*", none, false⟩ : SelectField).fragments table) =
      if table.isEmpty then [.sign "*"] else [.name table, .sign ".", .sign "*"] := by
  by_cases empty : table.isEmpty = true
  · simp [fragments, expression, empty]
  · simp [fragments, expression, empty]

theorem tokens_expression (field : SelectField) (single : field.column ≠ "*")
    (noCount : field.count = false) (table : String) :
    tokens (field.expression table) = tokens (Fragment.column table field.column) := by
  simp [expression, single, noCount]

theorem output_column (table name : String) (rest : List Token)
    (next : rest.head? ≠ some (.sign ".")) :
    Parser.output (tokens (Fragment.column table name) ++ rest) =
      some (Parser.renamed (Column.of table name) rest) := by
  have read := column_reads table name rest next
  unfold Parser.output
  split
  · next behind same =>
    obtain ⟨identifier, tail, shape⟩ := head_column table name rest
    rw [shape] at same
    cases same
  · next other behind same =>
    unfold Fragment.column at same
    split at same
    · obtain ⟨-, rfl⟩ := List.cons.inj same
      exact absurd rfl next
    · cases same
  · rw [read]
    rfl

theorem output_reads (field : SelectField) (isOutput : field.IsOutput) (table : String)
    (token : Token) (rest : List Token) (next : token = .sign "," ∨ token = .word "FROM") :
    Parser.output (tokens (field.fragments table) ++ token :: rest) =
      some (field.output table, token :: rest) := by
  obtain ⟨noCount, noName⟩ := isOutput
  by_cases all : field.column = "*"
  · have star : field = ⟨"*", none, false⟩ := by
      rw [← all, ← noName all, ← noCount]
    rw [star, tokens_star]
    by_cases empty : table.isEmpty = true
    · simp [Parser.output, output, empty]
    · simp [Parser.output, output, empty]
  · have noPoint : token ≠ .sign "." := by
      rcases next with rfl | rfl
      · decide
      · decide
    have noAs : token ≠ .word "AS" := by
      rcases next with rfl | rfl
      · decide
      · decide
    have expression := tokens_expression field all noCount table
    rw [output, if_neg all]
    cases name : field.outputName with
    | none =>
        have whole : tokens (field.fragments table) = tokens (Fragment.column table field.column) := by
          rw [fragments, name]
          exact expression
        rw [whole, output_column _ _ _ (by simpa using noPoint)]
        rcases next with rfl | rfl
        · rfl
        · rfl
    | some other =>
        have whole : tokens (field.fragments table) =
            tokens (Fragment.column table field.column) ++ [.word "AS", .name other] := by
          rw [fragments, name]
          simp [expression, textTokens_as]
        rw [whole, List.append_assoc, output_column _ _ _ (by simp)]
        rfl

end SelectField

/-! ## Statements -/

def BlankFirst (pieces : List Fragment) : Prop :=
  ∀ piece ∈ pieces.head?, ∃ s, piece = .text s ∧ s.toList.head? = some ' '

theorem blankFirst_nil : BlankFirst [] := by
  intro piece member
  cases member

theorem blankFirst_text {s : String} (rest : List Fragment) (blank : s.toList.head? = some ' ') :
    BlankFirst (.text s :: rest) := by
  intro piece member
  obtain rfl := Option.some.inj member
  exact ⟨s, rfl, blank⟩

theorem BlankFirst.append {front back : List Fragment} (blank : BlankFirst front)
    (blankBack : BlankFirst back) : BlankFirst (front ++ back) := by
  cases front with
  | nil => exact blankBack
  | cons piece rest => exact blank

theorem BlankFirst.follows {pieces : List Fragment} (blank : BlankFirst pieces)
    (dialect : Dialect) : Follows (Fragment.sql dialect 0 pieces).toList := by
  cases pieces with
  | nil =>
      intro c member
      cases member
  | cons piece rest =>
      obtain ⟨s, rfl, first⟩ := blank piece rfl
      obtain ⟨tail, shape⟩ := List.head?_eq_some_iff.mp first
      intro c member
      rw [Fragment.sql, String.toList_append, shape] at member
      exact (Option.some.inj member).symm

theorem outputs_reads (fields : List SelectField) (some' : fields ≠ [])
    (isOutput : ∀ field ∈ fields, field.IsOutput) (table : String) (steps : Nat)
    (enough : (tokens (joined ", " (fields.map fun field => field.fragments table))).length < steps)
    (rest : List Token) :
    Parser.outputs steps (tokens (joined ", " (fields.map fun field => field.fragments table)) ++
      .word "FROM" :: rest) = some (fields.map fun field => field.output table, rest) := by
  induction fields generalizing steps with
  | nil => exact absurd rfl some'
  | cons field others ih =>
      have here := field.output_reads (isOutput field (List.mem_cons_self ..)) table
      obtain ⟨steps, rfl⟩ := Nat.exists_eq_succ_of_ne_zero (Nat.ne_zero_of_lt enough)
      cases others with
      | nil =>
          have first := here (.word "FROM") rest (Or.inr rfl)
          have alone : joined ", " ([field].map fun field => field.fragments table) =
              field.fragments table := List.intercalate_singleton
          rw [alone, Parser.outputs, first]
          rfl
      | cons next others =>
          have shape : tokens (joined ", "
              ((field :: next :: others).map fun field => field.fragments table)) =
              tokens (field.fragments table) ++ .sign "," :: tokens (joined ", "
                ((next :: others).map fun field => field.fragments table)) := by
            rw [List.map_cons, List.map_cons, Fragment.joined_cons_cons]
            simp
          rw [shape, List.length_append, List.length_cons] at enough
          have later := ih (List.cons_ne_nil _ _)
            (fun other member => isOutput other (List.mem_cons_of_mem _ member)) steps (by omega)
          have first := here (.sign ",") (tokens (joined ", "
            ((next :: others).map fun field => field.fragments table)) ++ .word "FROM" :: rest)
            (Or.inl rfl)
          rw [shape, List.append_assoc, List.cons_append, Parser.outputs, first]
          simp only [Option.bind_eq_bind, Option.bind_some, later]
          rfl

namespace Select

def outputs (select : Select) : List Output :=
  if select.fields.isEmpty then [.every none]
  else select.fields.map fun field => field.output select.table

theorem selection_front (select : Select) (isOutput : ∀ field ∈ select.fields, field.IsOutput)
    (later : List Token) :
    selection (tokens select.front ++ later) = some ⟨select.table, select.outputs⟩ := by
  have shape : tokens select.front ++ later = .word "SELECT" ::
      (tokens select.fieldFragments ++ .word "FROM" :: .name select.table :: later) := by
    simp [Select.front]
  have list : Parser.outputs
      (tokens select.fieldFragments ++ .word "FROM" :: .name select.table :: later).length
      (tokens select.fieldFragments ++ .word "FROM" :: .name select.table :: later) =
        some (select.outputs, .name select.table :: later) := by
    by_cases none : select.fields = []
    · have every : tokens select.fieldFragments = [.sign "*"] := by
        simp [fieldFragments, none]
      have outputs : select.outputs = [.every Option.none] := by simp [outputs, none]
      rw [every, outputs]
      rfl
    · have given : select.fields.isEmpty = false := by simpa using none
      have fragments : select.fieldFragments =
          joined ", " (select.fields.map fun field => field.fragments select.table) := by
        simp [fieldFragments, given]
      have outputs : select.outputs = select.fields.map fun field => field.output select.table := by
        simp [outputs, given]
      rw [fragments, outputs]
      refine outputs_reads select.fields none isOutput select.table _ ?_ _
      rw [List.length_append, List.length_cons]
      omega
  have isOf : select.outputs.all (Output.isOf select.table) = true := by
    unfold outputs
    split
    · rfl
    · rw [List.all_map, List.all_eq_true]
      exact fun field _ => field.output_isOf select.table
  rw [shape]
  simp only [selection, list, Option.bind_eq_bind, Option.bind_some, isOf, if_true]

def behind (select : Select) (zone : Offset) : List Fragment :=
  (Where.ofConditions select.conditions select.table select.compose zone).suffix ++
    (select.groupFragments ++ (select.orderFragments ++ select.rawFragments))

theorem fragments_eq_front (select : Select) (zone : Offset) :
    select.fragments zone = select.front ++ select.behind zone := by
  simp only [Select.fragments, front, behind, List.append_assoc]

theorem follows_behind (select : Select) (zone : Offset) (dialect : Dialect) :
    Follows (Fragment.sql dialect 0 (select.behind zone)).toList := by
  have conditions : BlankFirst
      (Where.ofConditions select.conditions select.table select.compose zone).suffix := by
    unfold Where.suffix
    split
    · exact blankFirst_nil
    · exact blankFirst_text _ (by decide)
  have groups : BlankFirst select.groupFragments := by
    unfold groupFragments
    split
    · exact blankFirst_nil
    · exact blankFirst_text _ (by decide)
  have order : BlankFirst select.orderFragments := by
    unfold orderFragments
    split
    · exact blankFirst_nil
    · exact blankFirst_text _ (by decide)
  have raw : BlankFirst select.rawFragments := by
    unfold rawFragments
    dsimp only
    split
    · exact blankFirst_nil
    · exact blankFirst_text _ (by decide)
  exact (conditions.append (groups.append (order.append raw))).follows dialect

theorem selected?_statement (select : Select)
    (isOutput : ∀ field ∈ select.fields, field.IsOutput) {dialect : Dialect}
    (legible : dialect.Legible) {found : Selection}
    (read : (select.statement dialect).selected? dialect.quote = some found) :
    found = ⟨select.table, select.outputs⟩ := by
  rw [Statement.selected?, Select.statement, fragments_eq_front] at read
  obtain ⟨whole, tokens, selected⟩ := Option.bind_eq_some_iff.mp read
  obtain ⟨later, rfl⟩ := Fragment.tokens?_front legible select.front _
    (spaced_front select) (params_front select) (select.follows_behind _ dialect) tokens
  rw [select.selection_front isOutput later] at selected
  exact (Option.some.inj selected).symm

end Select

end RecordMapper.Sql
