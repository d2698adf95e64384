import RecordMapper.Proofs.Sql.Command
/-! # Placeholders and parameters

`placeholders` reads the placeholders off the text that remains when the identifiers are deleted.
`placeholders_lexemes`: in the text of a spaced list they are the markers 1, 2, 3 and so on, one for
each parameter.  `Command.params_statement`: the parameters of a command are the values that were
given, in the order in which they were given. -/
set_option autoImplicit false
namespace RecordMapper.Sql

open Calendar (Offset)
open RecordMapper.Filter (Conditions Operand)

/-- The placeholders of either style, in order: `?`, and `$` with the digits behind it. -/
def placeholders : List Char → List String
  | [] => []
  | c :: rest =>
    if c = '?' then "?" :: placeholders rest
    else if c = '$' then String.ofList ('$' :: rest.takeWhile Char.isDigit) :: placeholders rest
    else placeholders rest

theorem placeholders_free (cs rest : List Char) (free : ∀ c ∈ cs, c ≠ '?' ∧ c ≠ '$') :
    placeholders (cs ++ rest) = placeholders rest := by
  induction cs with
  | nil => rfl
  | cons c cs ih =>
      obtain ⟨noQuestion, noDollar⟩ := free c (List.mem_cons_self ..)
      rw [List.cons_append, placeholders, if_neg noQuestion, if_neg noDollar]
      exact ih fun d member => free d (List.mem_cons_of_mem c member)

theorem placeholders_marker (dialect : Dialect) (n : Nat) (rest : List Char)
    (next : ∀ c ∈ rest.head?, c.isDigit = false) :
    placeholders ((dialect.marker n).toList ++ rest) = dialect.marker n :: placeholders rest := by
  cases style : dialect.placeholder with
  | positional =>
      simp [Dialect.marker, style, placeholders]
  | numbered =>
      have digits : ∀ c ∈ Nat.toDigits 10 n, c.isDigit = true :=
        fun c member => Nat.isDigit_of_mem_toDigits (by decide) (by decide) member
      have free : ∀ c ∈ Nat.toDigits 10 n, c ≠ '?' ∧ c ≠ '$' := by
        intro c member
        have digit := digits c member
        constructor
        · rintro rfl
          exact absurd digit (by decide)
        · rintro rfl
          exact absurd digit (by decide)
      have stop : rest.takeWhile Char.isDigit = [] := by
        cases rest with
        | nil => rfl
        | cons c rest => simp [next c rfl]
      have whole : String.ofList ('$' :: Nat.toDigits 10 n) = dialect.marker n := by
        rw [← marker_numbered style n, String.ofList_toList]
      rw [marker_numbered style, List.cons_append, placeholders, if_neg (by decide), if_pos rfl,
        List.takeWhile_append_of_pos digits, stop, List.append_nil, whole,
        placeholders_free _ _ free]

namespace Fragment

theorem head_remaining_not_digit (dialect : Dialect) (n : Nat) (param : Param)
    (pieces : List Fragment) (spaced : Spaced (.bind param :: pieces)) :
    ∀ c ∈ (Lexeme.remaining (lexemes dialect n pieces)).head?, c.isDigit = false := by
  intro c member
  obtain ⟨-, next, spaced⟩ := spaced
  cases pieces with
  | nil => simp [lexemes, Lexeme.remaining] at member
  | cons piece rest =>
      have apart : (Fragment.bind param).Apart piece := next piece rfl
      cases piece with
      | name identifier => simp [Apart, beginsLoose, endsLoose] at apart
      | bind other => simp [Apart, beginsLoose, endsLoose] at apart
      | text s =>
          obtain ⟨nonempty, -⟩ := isTidy_text spaced.1
          obtain ⟨d, tail, shape⟩ := List.exists_cons_of_ne_nil nonempty
          rw [lexemes, Lexeme.remaining_append, Lexeme.remaining_plain, shape] at member
          obtain rfl : d = c := by simpa using member
          have loose : isLoose d = true := by simpa [Apart, beginsLoose, endsLoose, shape] using apart
          cases digit : d.isDigit with
          | false => rfl
          | true => simp [isLoose, Char.isAlphanum, digit] at loose

theorem placeholders_lexemes (dialect : Dialect) (n : Nat) (pieces : List Fragment)
    (spaced : Spaced pieces) :
    placeholders (Lexeme.remaining (lexemes dialect n pieces)) =
      (List.range' (n + 1) (params pieces).length).map dialect.marker := by
  induction pieces generalizing n with
  | nil => rfl
  | cons piece rest ih =>
      have there := fun k => ih k spaced.2.2
      cases piece with
      | text s =>
          have free : ∀ c ∈ s.toList, c ≠ '?' ∧ c ≠ '$' :=
            fun c member => ((isTidy_text spaced.1).2 c member).2
          rw [lexemes, Lexeme.remaining_append, Lexeme.remaining_plain, placeholders_free _ _ free]
          exact there n
      | name identifier => exact there n
      | bind param =>
          have next := head_remaining_not_digit dialect (n + 1) param rest spaced
          rw [lexemes, Lexeme.remaining_append, Lexeme.remaining_plain,
            placeholders_marker dialect (n + 1) _ next, there (n + 1)]
          rfl

/-! ## The parameters of each command -/

theorem params_column (table name : String) : params (column table name) = [] := by
  unfold column
  split <;> rfl

theorem params_cell (c : Cell) :
    params [cell c] = if c.isNull then [] else [c.param] := by
  unfold cell
  split <;> rfl

end Fragment

open Fragment

def Test.params : Test → List Param
  | .isNull _ => []
  | .isAmong _ params => params
  | .compare _ _ param => [param]

theorem Test.params_fragments (column : List Fragment) (none : Fragment.params column = [])
    (test : Test) : Fragment.params (test.fragments column) = test.params := by
  cases test with
  | isNull negate => simp [Test.fragments, none, Test.params]
  | isAmong negate ps =>
      have list : Fragment.params (joined "," (ps.map fun param => [Fragment.bind param])) = ps := by
        rw [params_joined, List.flatMap_map]
        exact List.flatMap_singleton' ps
      simp [Test.fragments, none, list, Test.params]
  | compare operator lowered param =>
      cases lowered
      · simp [Test.fragments, none, Test.params]
      · simp [Test.fragments, none, Test.params]

theorem Clause.params_fragments (clause : Clause) :
    Fragment.params clause.fragments = clause.tests.flatMap Test.params := by
  have each : ∀ test : Test, Fragment.params
      (test.fragments (Fragment.column clause.table clause.column)) = test.params :=
    fun test => test.params_fragments _ (params_column _ _)
  have body : Fragment.params clause.body = clause.tests.flatMap Test.params := by
    unfold Clause.body
    split
    · next empty =>
        rw [List.isEmpty_iff.mp empty]
        rfl
    · rw [params_joined, List.flatMap_map]
      exact congrArg (List.flatMap · clause.tests) (funext each)
  rw [clause.fragments_eq_body, params_text, params_append, body, params_text, params_nil,
    List.append_nil]

theorem Clause.params_valueTests (key : Filter.Key) (ps : List Param) :
    (valueTests key ps).flatMap Test.params = ps := by
  unfold valueTests
  split
  · simp [Test.params]
  · rw [List.flatMap_map]
    exact List.flatMap_singleton' ps

theorem Clause.params_ofCondition (table : String) (zone : Offset) (raw : String)
    (operand : Operand) :
    (ofCondition table zone raw operand).tests.flatMap Test.params =
      operand.values.filterMap fun value => value.toParam zone := by
  have list : ∀ (key : Filter.Key) (values : List Value),
      (listTests key values zone).flatMap Test.params =
        values.filterMap fun value => value.toParam zone := by
    intro key values
    rw [listTests, List.flatMap_append, params_valueTests]
    split <;> rfl
  cases operand with
  | null => rfl
  | one value => exact list _ [value]
  | many values => exact list _ values

theorem params_where (conditions : Conditions) (table : String) (compose : Filter.Connective)
    (zone : Offset) :
    Fragment.params (Where.ofConditions conditions table compose zone).fragments =
      givenConditions conditions zone := by
  rw [Where.fragments, params_joined, List.flatMap_map]
  simp only [Where.ofConditions, List.flatMap_map, Clause.params_fragments,
    Clause.params_ofCondition]
  rfl

theorem params_suffix (w : Where) : Fragment.params w.suffix = Fragment.params w.fragments := by
  unfold Where.suffix
  split
  · next empty =>
      rw [List.isEmpty_iff] at empty
      simp [Where.fragments, empty, joined, List.intercalate]
  · rfl

theorem params_cells (cells : List (String × Cell)) :
    cells.flatMap (fun entry => Fragment.params [cell entry.2]) = givenCells cells := by
  induction cells with
  | nil => rfl
  | cons entry rest ih =>
      rw [List.flatMap_cons, ih, params_cell]
      cases isNull : entry.2.isNull <;> simp [givenCells, isNull]

theorem params_names (cells : List (String × Cell)) :
    Fragment.params (joined "," (cells.map fun entry => [Fragment.name entry.1])) = [] := by
  rw [params_joined, List.flatMap_map, List.flatMap_eq_nil_iff]
  intro entry _
  rfl

theorem params_insert (insert : Insert) :
    Fragment.params insert.fragments = givenCells insert.cells := by
  have cells : Fragment.params (joined "," (insert.cells.map fun entry => [cell entry.2])) =
      givenCells insert.cells := by
    rw [params_joined, List.flatMap_map, params_cells]
  unfold Insert.fragments
  split
  · next empty =>
      rw [List.isEmpty_iff] at empty
      simp [empty, givenCells]
  · simp [params_names, cells]

theorem params_assignments (cells : List (String × Cell)) :
    Fragment.params (joined ", " (cells.map Update.assignment)) = givenCells cells := by
  rw [params_joined, List.flatMap_map, ← params_cells]
  rfl

theorem params_update (update : Update) (zone : Offset) :
    Fragment.params (update.fragments zone) =
      givenCells update.cells ++ givenConditions update.conditions zone := by
  simp only [Update.fragments, params_append, params_suffix, params_where, params_assignments]
  rfl

theorem params_expression (field : SelectField) (table : String) :
    Fragment.params (field.expression table) = [] := by
  have column : Fragment.params (if field.column = "*"
      then if table.isEmpty then [Fragment.text "*"] else [.name table, .text ".*"]
      else column table field.column) = [] := by
    split
    · split <;> rfl
    · exact params_column _ _
  unfold SelectField.expression
  dsimp only
  split
  · rw [params_append, params_append, column]
    rfl
  · exact column

theorem params_fields (select : Select) : Fragment.params select.fieldFragments = [] := by
  have field : ∀ field : SelectField, Fragment.params (field.fragments select.table) = [] := by
    intro field
    unfold SelectField.fragments
    split
    · rw [params_append, params_expression]
      rfl
    · exact params_expression _ _
  unfold Select.fieldFragments
  split
  · rfl
  · simp [params_joined, List.flatMap_eq_nil_iff, field]

theorem params_front (select : Select) : Fragment.params select.front = [] := by
  simp [Select.front, params_fields]

theorem params_groups (select : Select) : Fragment.params select.groupFragments = [] := by
  unfold Select.groupFragments
  split
  · rfl
  · refine (params_joined ", " _).trans ?_
    simp [List.flatMap_eq_nil_iff, params_expression]

theorem params_select (select : Select) (zone : Offset) :
    Fragment.params (select.listed zone) = givenConditions select.conditions zone := by
  simp only [Select.listed, params_append, params_suffix, params_where, params_front, params_groups,
    List.append_nil]
  rfl

theorem Command.params_statement (command : Command) (plain : command.Plain) (dialect : Dialect) :
    (command.statement dialect).params = command.given dialect.zone := by
  rw [command.statement_eq]
  cases command with
  | condition conditions table compose => exact params_where _ _ _ _
  | insert row => exact params_insert row
  | update change => exact params_update change dialect.zone
  | delete removal =>
      refine (params_append _ _).trans ?_
      rw [params_suffix, params_where]
      rfl
  | select query =>
      refine Eq.trans ?_ (params_select query dialect.zone)
      rw [← query.fragments_eq_listed dialect.zone plain.1 plain.2]
      rfl

end RecordMapper.Sql
