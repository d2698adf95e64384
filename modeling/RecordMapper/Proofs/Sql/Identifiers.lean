import RecordMapper.Proofs.Sql.Likeness
/-! # Identifiers in the text of a statement

Whatever characters the names of a command have, a scan of its text finds every identifier closed, and
as identifiers just the names of the command (`Command.names`), in order.  What stands between them is
the same for alike commands, whatever their names (`Command.scan_names`). -/
set_option autoImplicit false
namespace RecordMapper.Sql

open Calendar (Offset)
open RecordMapper.Filter (Conditions Key Operand)

/-! ## The names of a command -/

def columnNames (table name : String) : List String :=
  if table.isEmpty then [name] else [table, name]

/-- How many tests a condition comes to: one for the null and one for each other value of a list, or one
for all of these if they are compared for equality. -/
def testCount (key : Key) : Operand → Nat
  | .null | .one _ => 1
  | .many values =>
    let bound := values.countP fun value => !value.isNull
    (if values.any Value.isNull then 1 else 0) + if key.operator = .eq then min 1 bound else bound

def conditionNames (conditions : Conditions) (table : String) : List String :=
  conditions.entries.flatMap fun entry =>
    let key := Key.ofText entry.1
    (List.replicate (testCount key entry.2) (columnNames table key.field)).flatten

namespace SelectField

def expressionNames (field : SelectField) (table : String) : List String :=
  if field.column = "*" then if table.isEmpty then [] else [table]
  else columnNames table field.column

def names (field : SelectField) (table : String) : List String :=
  field.expressionNames table ++ field.outputName.toList

end SelectField

/-- The names that a statement is built from, in the order in which they are written. -/
def Command.names : Command → List String
  | .condition conditions table _ => conditionNames conditions table
  | .insert row => row.table :: row.cells.map Prod.fst
  | .update change =>
    change.table :: (change.cells.map Prod.fst ++ conditionNames change.conditions change.table)
  | .delete removal => removal.table :: conditionNames removal.conditions removal.table
  | .select query =>
    query.fields.flatMap (SelectField.names · query.table) ++
      query.table :: (conditionNames query.conditions query.table ++
        query.groupBy.flatMap fun entry => (SelectField.ofText entry).expressionNames query.table)

/-! ## The names of pieces -/

namespace Lexeme

def name? : Lexeme → Option String
  | .plain _ => none
  | .name identifier => some identifier

def names (lexemes : List Lexeme) : List String := lexemes.filterMap name?

/-- The characters outside the identifiers, with a gap in the place of each identifier. -/
def skeleton (lexemes : List Lexeme) : List (Option Char) := lexemes.map plain?

theorem names_plain (cs : List Char) (rest : List Lexeme) :
    names (cs.map .plain ++ rest) = names rest := by
  induction cs with
  | nil => rfl
  | cons c cs ih => exact ih

end Lexeme

namespace Fragment

def name? : Fragment → Option String
  | .name identifier => some identifier
  | .text _ | .bind _ => none

def names (pieces : List Fragment) : List String := pieces.filterMap name?

@[simp] theorem names_nil : names [] = [] := rfl

@[simp] theorem names_text (s : String) (rest : List Fragment) :
    names (.text s :: rest) = names rest := rfl

@[simp] theorem names_name (identifier : String) (rest : List Fragment) :
    names (.name identifier :: rest) = identifier :: names rest := rfl

@[simp] theorem names_bind (param : Param) (rest : List Fragment) :
    names (.bind param :: rest) = names rest := rfl

@[simp] theorem names_append (front back : List Fragment) :
    names (front ++ back) = names front ++ names back := List.filterMap_append

theorem names_joined (separator : String) (parts : List (List Fragment)) :
    names (joined separator parts) = parts.flatMap names :=
  filterMap_joined (fun _ => rfl) separator parts

theorem names_lexemes (dialect : Dialect) (n : Nat) (pieces : List Fragment) :
    Lexeme.names (lexemes dialect n pieces) = names pieces := by
  induction pieces generalizing n with
  | nil => rfl
  | cons piece rest ih =>
      cases piece with
      | text s => rw [lexemes, Lexeme.names_plain, ih, names_text]
      | name identifier => exact congrArg (identifier :: ·) (ih n)
      | bind param => rw [lexemes, Lexeme.names_plain, ih, names_bind]

theorem skeleton_of_alike {related : String → String → Prop} (dialect : Dialect) (n : Nat)
    {pieces others : List Fragment} (alike : AllAlike related pieces others) :
    Lexeme.skeleton (lexemes dialect n pieces) = Lexeme.skeleton (lexemes dialect n others) := by
  induction alike generalizing n with
  | nil => rfl
  | cons piece _ ih =>
      cases piece with
      | text s => simpa [lexemes, Lexeme.skeleton] using ih n
      | name same => exact congrArg (none :: ·) (ih n)
      | bind param other => simpa [lexemes, Lexeme.skeleton] using ih (n + 1)

@[simp] theorem names_cell (c : Cell) : names [cell c] = [] := by
  rw [cell]
  split <;> rfl

@[simp] theorem names_column (table name : String) : names (column table name) = columnNames table name := by
  rw [column, columnNames]
  split <;> rfl

end Fragment

open Fragment (names)

theorem names_test (column : List Fragment) (test : Test) :
    names (test.fragments column) = names column := by
  cases test with
  | isNull negate => simp [Test.fragments]
  | isAmong negate params =>
      have silent : (params.map fun param => [Fragment.bind param]).flatMap names = [] := by
        simp [List.flatMap_map]
      simp [Test.fragments, Fragment.names_joined, silent]
  | compare operator lowered param => cases lowered <;> simp [Test.fragments]

theorem names_clause (clause : Clause) : names clause.fragments =
    (List.replicate clause.tests.length (columnNames clause.table clause.column)).flatten := by
  have body : names clause.body =
      (List.replicate clause.tests.length (columnNames clause.table clause.column)).flatten := by
    rw [Clause.body]
    split
    · next none => simp [List.isEmpty_iff.mp none]
    · rw [Fragment.names_joined, List.flatMap_map]
      simp [names_test, List.flatMap_def]
  simp [clause.fragments_eq_body, body]

theorem length_valueTests (key : Key) (params : List Param) :
    (Clause.valueTests key params).length =
      if key.operator = .eq then min 1 params.length else params.length := by
  rw [Clause.valueTests]
  by_cases equality : key.operator = .eq
  · by_cases several : 2 ≤ params.length
    · simp only [equality, several, decide_true, Bool.and_true, if_true, List.length_singleton]
      omega
    · simp only [equality, several, decide_true, decide_false, Bool.and_true, if_true,
        Bool.false_eq_true, if_false, List.length_map]
      omega
  · simp [equality]

theorem length_operandTests (key : Key) (operand : Operand) (zone : Offset) :
    (Clause.operandTests key operand zone).length = testCount key operand := by
  have list : ∀ values, (Clause.listTests key values zone).length = testCount key (.many values) := by
    intro values
    rw [Clause.listTests, List.length_append, length_valueTests, length_toParam, testCount]
    cases values.any Value.isNull <;> rfl
  cases operand with
  | null => rfl
  | one value =>
      refine (list [value]).trans ?_
      cases null : value.isNull <;> simp [testCount, null]
  | many values => exact list values

theorem names_conditions (conditions : Conditions) (table : String) (compose : Filter.Connective)
    (zone : Offset) :
    (Where.ofConditions conditions table compose zone).clauses.flatMap (names ·.fragments) =
      conditionNames conditions table := by
  rw [Where.ofConditions, conditionNames, List.flatMap_map]
  refine List.flatMap_congr fun entry _ => ?_
  rw [names_clause]
  simp only [Clause.ofCondition, length_operandTests]

theorem names_where (w : Where) : names w.fragments = w.clauses.flatMap (names ·.fragments) := by
  rw [Where.fragments, Fragment.names_joined, List.flatMap_map]

theorem names_suffix (w : Where) : names w.suffix = w.clauses.flatMap (names ·.fragments) := by
  rw [Where.suffix]
  split
  · next none => simp [List.isEmpty_iff.mp none]
  · rw [Fragment.names_text, names_where]

theorem names_expression (field : SelectField) (table : String) :
    names (field.expression table) = field.expressionNames table := by
  have column : names (if field.column = "*"
      then if table.isEmpty then [.text "*"] else [.name table, .text ".*"]
      else Fragment.column table field.column) = field.expressionNames table := by
    rw [SelectField.expressionNames]
    split
    · split <;> rfl
    · exact Fragment.names_column table field.column
  rw [SelectField.expression]
  split
  · rw [Fragment.names_append, Fragment.names_append, column]
    exact List.append_nil _
  · exact column

theorem names_field (field : SelectField) (table : String) :
    names (field.fragments table) = field.names table := by
  rw [SelectField.fragments, SelectField.names]
  split
  · next output found => simp [names_expression, found]
  · next none => simp [names_expression, none]

theorem names_cells (cells : List (String × Cell)) :
    (cells.map fun entry => [Fragment.name entry.1]).flatMap names = cells.map Prod.fst := by
  rw [List.flatMap_map, List.map_eq_flatMap]
  rfl

theorem names_insert (row : Insert) : names row.fragments = row.table :: row.cells.map Prod.fst := by
  have values : (row.cells.map fun entry => [Fragment.cell entry.2]).flatMap names = [] := by
    simp [List.flatMap_map]
  rw [Insert.fragments]
  split
  · next none => simp [List.isEmpty_iff.mp none]
  · simp [Fragment.names_joined, names_cells, values]

theorem names_update (change : Update) (zone : Offset) : names (change.fragments zone) =
    change.table ::
      (change.cells.map Prod.fst ++ conditionNames change.conditions change.table) := by
  have assignments : (change.cells.map Update.assignment).flatMap names =
      change.cells.map Prod.fst := by
    rw [List.flatMap_map, List.map_eq_flatMap]
    refine List.flatMap_congr fun entry _ => ?_
    simp [Update.assignment]
  simp [Update.fragments, Fragment.names_joined, assignments, names_suffix, names_conditions]

theorem names_delete (removal : Delete) (zone : Offset) : names (removal.fragments zone) =
    removal.table :: conditionNames removal.conditions removal.table := by
  simp [Delete.fragments, names_suffix, names_conditions]

theorem names_select (query : Select) (zone : Offset) : names (query.fragments zone) =
    query.fields.flatMap (SelectField.names · query.table) ++
      query.table :: (conditionNames query.conditions query.table ++
        query.groupBy.flatMap fun entry =>
          (SelectField.ofText entry).expressionNames query.table) := by
  have fields : names query.fieldFragments =
      query.fields.flatMap (SelectField.names · query.table) := by
    rw [Select.fieldFragments]
    split
    · next none => simp [List.isEmpty_iff.mp none]
    · simp only [Fragment.names_joined, List.flatMap_map, names_field]
  have groups : names query.groupFragments = query.groupBy.flatMap fun entry =>
      (SelectField.ofText entry).expressionNames query.table := by
    rw [Select.groupFragments]
    split
    · next none => simp [List.isEmpty_iff.mp none]
    · simp only [Fragment.names_text, Fragment.names_joined, List.flatMap_map, names_expression]
  have order : names query.orderFragments = [] := by
    rw [Select.orderFragments]
    split <;> rfl
  have raw : names query.rawFragments = [] := by
    rw [Select.rawFragments]
    split <;> rfl
  simp [Select.fragments, fields, groups, order, raw, names_suffix, names_conditions]

theorem Command.names_fragments (command : Command) (zone : Offset) :
    Fragment.names (command.fragments zone) = command.names := by
  cases command with
  | condition conditions table compose =>
      exact (names_where _).trans (names_conditions conditions table compose zone)
  | insert row => exact names_insert row
  | update change => exact names_update change zone
  | delete removal => exact names_delete removal zone
  | select query => exact names_select query zone

theorem Command.plain_of_alike {related : String → String → Prop} {command other : Command}
    (alike : command.Alike related other) (plain : command.Plain) : other.Plain := by
  cases alike with
  | select queries => exact ⟨queries.orderBy ▸ plain.1, queries.raw ▸ plain.2⟩
  | condition | insert | update | delete => trivial

/-- Every identifier in the text of a command is closed, and read back they are the names that the
command was built from.  What is left between them does not depend on the names: it is the same for
every command that is alike in all but names and values.  This holds of every quote character that
does not stand between the identifiers. -/
theorem Command.scan_names (command : Command) (plain : command.Plain) (dialect : Dialect)
    (hidden : Fragment.Hidden dialect 0 (command.fragments dialect.zone)) :
    ∃ found, scan dialect.quote (command.statement dialect).sql = some found ∧
      Lexeme.names found = command.names ∧
      ∀ other, command.Alike (fun _ _ => True) other →
        ∃ others, scan dialect.quote (other.statement dialect).sql = some others ∧
          Lexeme.skeleton others = Lexeme.skeleton found := by
  have spaced := command.spaced plain dialect.zone
  refine ⟨_, ?_, (Fragment.names_lexemes dialect 0 _).trans (command.names_fragments dialect.zone), ?_⟩
  · rw [command.statement_eq]
    exact Fragment.scan_hidden _ hidden spaced
  · intro other alike
    have same := Fragment.skeleton_of_alike dialect 0 (Command.fragments_alike alike dialect.zone)
    have hiddenOther : Fragment.Hidden dialect 0 (other.fragments dialect.zone) := by
      have remaining : ∀ lexemes, Lexeme.remaining lexemes = (Lexeme.skeleton lexemes).filterMap id := by
        intro lexemes
        rw [Lexeme.skeleton, List.filterMap_map, Lexeme.remaining]
        rfl
      rwa [Fragment.Hidden, remaining, ← same, ← remaining]
    refine ⟨_, ?_, same.symm⟩
    rw [other.statement_eq]
    exact Fragment.scan_hidden _ hiddenOther
      (other.spaced (Command.plain_of_alike alike plain) dialect.zone)

/-- Quotes, placeholders and nothing at all as names, and plain names in their place. -/
theorem Command.scan_names_quotes :
    let query : Command := .select
      { table := "\x60\x60", fields := [⟨"", some "?", false⟩, ⟨"*", none, true⟩]
        conditions := ⟨[("!\x60", .many [.null, .str "a"])], by decide⟩, compose := .and
        groupBy := ["#;\x60"], orderBy := [], raw := none }
    let other : Command := .select
      { table := "t", fields := [⟨"a", some "b", false⟩, ⟨"*", none, true⟩]
        conditions := ⟨[("!c", .many [.null, .str "\x60"])], by decide⟩, compose := .and
        groupBy := ["#d"], orderBy := [], raw := none }
    query.Plain ∧ Fragment.Hidden .standard 0 (query.fragments .utc) ∧
      ∃ found others, scan '\x60' (query.statement .standard).sql = some found ∧
        Lexeme.names found = ["\x60\x60", "", "?", "\x60\x60", "\x60\x60",
          "\x60\x60", "\x60", "\x60\x60", "\x60", "\x60\x60", ";\x60"] ∧
        scan '\x60' (other.statement .standard).sql = some others ∧
        Lexeme.skeleton others = Lexeme.skeleton found := by
  intro query other
  have plain : query.Plain := ⟨rfl, rfl⟩
  have hidden : Fragment.Hidden .standard 0 (query.fragments .utc) :=
    Fragment.hidden_of_legible (by decide) 0 _ (query.spaced plain .utc)
  obtain ⟨found, read, names, alike⟩ := Command.scan_names query plain .standard hidden
  obtain ⟨others, readOther, same⟩ := alike other (.select
    { table := ⟨trivial, by decide⟩
      fields := .cons ⟨⟨trivial, by decide, rfl⟩, .some trivial⟩
        (.cons ⟨⟨trivial, by decide, rfl⟩, .none⟩ .nil)
      conditions := .cons ⟨⟨trivial, by decide⟩, .many rfl⟩ .nil
      compose := rfl
      groupBy := .cons ⟨trivial, by decide, by decide⟩ .nil
      orderBy := rfl
      raw := rfl })
  exact ⟨plain, hidden, found, others, read, names.trans (by decide), readOther, same⟩

end RecordMapper.Sql
