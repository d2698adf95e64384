import RecordMapper.Proofs.Sql.ConditionTokens
import RecordMapper.Proofs.Sql.Insertion
import RecordMapper.Proofs.Sql.Placeholders
/-! # Values in their places

`Command.filled` is the layout of a command with its values where they belong: a cell at its column, and
the values of a condition in the tests of its entry.  `Statement.bound?` reads a statement as a backend
does and lists its values, each with the column that it stands at.  In every statement each placeholder
has the place that the layout gives to its parameter (`placeholders_match_params`). -/
set_option autoImplicit false
namespace RecordMapper.Sql

open Calendar (Offset)
open RecordMapper.Filter (Conditions Connective Key Operand Operator)
open Fragment (tokens)

/-! ## Layouts -/

def filledAssignment (entry : String × Cell) : List Token :=
  [.name entry.1, .sign "=", cellToken entry.2]

def filledEntry (table : String) (zone : Offset) (entry : String × Operand) : List Token :=
  .sign "(" :: ((Clause.ofCondition table zone entry.1 entry.2).inner ++ [.sign ")"])

def filledConditions (conditions : Conditions) (table : String) (compose : Connective)
    (zone : Offset) : List Token :=
  List.intercalate [.word compose.sql] (conditions.entries.map (filledEntry table zone))

def filledWhere (conditions : Conditions) (table : String) (compose : Connective) (zone : Offset) :
    List Token :=
  if conditions.entries.isEmpty then []
  else .word "WHERE" :: filledConditions conditions table compose zone

/-- The command as a backend reads it, each value at its own column or in its own test. -/
def Command.filled (zone : Offset) : Command → List Token
  | .condition conditions table compose => filledConditions conditions table compose zone
  | .insert row => row.filled
  | .update change =>
    .word "UPDATE" :: .name change.table :: .word "SET" ::
      (List.intercalate [.sign ","] (change.cells.map filledAssignment) ++
        filledWhere change.conditions change.table change.compose zone)
  | .delete removal =>
    .word "DELETE" :: .word "FROM" :: .name removal.table ::
      filledWhere removal.conditions removal.table removal.compose zone
  | .select query =>
    .word "SELECT" :: (tokens query.fieldFragments ++ .word "FROM" :: .name query.table ::
      (filledWhere query.conditions query.table query.compose zone ++ tokens query.groupFragments))

theorem tokens_conditions (conditions : Conditions) (table : String) (compose : Connective)
    (zone : Offset) : tokens (Where.ofConditions conditions table compose zone).fragments =
      filledConditions conditions table compose zone := by
  rw [tokens_where, Where.ofConditions, List.map_map]
  rfl

theorem tokens_whereSuffix (conditions : Conditions) (table : String) (compose : Connective)
    (zone : Offset) : tokens (Where.ofConditions conditions table compose zone).suffix =
      filledWhere conditions table compose zone := by
  have listed : (Where.ofConditions conditions table compose zone).clauses.isEmpty =
      conditions.entries.isEmpty := by
    simp [Where.ofConditions]
  rw [filledWhere, ← listed]
  split
  · next none => rw [Where.suffix, if_pos none, Fragment.tokens_nil]
  · next some' => rw [tokens_suffix _ (by simpa using some'), tokens_conditions]

theorem tokens_assignments (cells : List (String × Cell)) :
    tokens (Fragment.joined ", " (cells.map Update.assignment)) =
      List.intercalate [.sign ","] (cells.map filledAssignment) := by
  have between : textTokens " = " = [.sign "="] := by decide
  have each : ∀ entry : String × Cell, tokens (Update.assignment entry) = filledAssignment entry := by
    intro entry
    rw [Update.assignment, Fragment.tokens_name, Fragment.tokens_text, between, tokens_cell]
    rfl
  rw [Fragment.tokens_joined, textTokens_commaBlank, List.map_map]
  exact congrArg (List.intercalate [.sign ","]) (congrArg (List.map · cells) (funext each))

theorem Command.tokens_fragments (command : Command) (plain : command.Plain) (zone : Offset) :
    tokens (command.fragments zone) = command.filled zone := by
  cases command with
  | condition conditions table compose => exact tokens_conditions _ _ _ _
  | insert row => exact tokens_insert row
  | update change =>
      have front : textTokens "UPDATE " = [.word "UPDATE"] := by decide
      have set : textTokens " SET " = [.word "SET"] := by decide
      simp [Command.fragments, Update.fragments, filled, front, set, tokens_assignments,
        tokens_whereSuffix]
  | delete removal =>
      have front : textTokens "DELETE FROM " = [.word "DELETE", .word "FROM"] := by decide
      simp [Command.fragments, Delete.fragments, filled, front, tokens_whereSuffix]
  | select query =>
      rw [Command.fragments, query.fragments_eq_listed zone plain.1 plain.2]
      simp [Select.listed, Select.front, filled, tokens_whereSuffix]

/-! ## The column of a value -/

/-- Values with the name that was read last before them. -/
def boundFrom (column : String) : List Token → List (String × Param)
  | [] => []
  | .name other :: rest => boundFrom other rest
  | .value param :: rest => (column, param) :: boundFrom column rest
  | _ :: rest => boundFrom column rest

def boundCells (cells : List (String × Cell)) : List (String × Param) :=
  (cells.filter fun entry => !entry.2.isNull).map fun entry => (entry.1, entry.2.param)

/-- In a row a value has the column of the same position, and elsewhere the one in front of it. -/
def boundTokens (tokens : List Token) : List (String × Param) :=
  match insertion tokens with
  | some row => boundCells row.cells
  | none => boundFrom "" tokens

/-- The values of a statement from left to right, each with the column that it stands at. -/
def Statement.bound? (statement : Statement) (quote : Char) : Option (List (String × Param)) :=
  (statement.tokens? quote).map boundTokens

def boundEntry (zone : Offset) (entry : String × Operand) : List (String × Param) :=
  (entry.2.values.filterMap fun value => value.toParam zone).map ((Key.ofText entry.1).field, ·)

def Command.bound (zone : Offset) : Command → List (String × Param)
  | .condition conditions _ _ => conditions.entries.flatMap (boundEntry zone)
  | .insert row => boundCells row.cells
  | .update change => boundCells change.cells ++ change.conditions.entries.flatMap (boundEntry zone)
  | .delete removal => removal.conditions.entries.flatMap (boundEntry zone)
  | .select query => query.conditions.entries.flatMap (boundEntry zone)

/-- Whatever stands before and behind the tokens, these are their values and columns. -/
def Binds (tokens : List Token) (bound : List (String × Param)) : Prop :=
  ∀ column rest, ∃ last, boundFrom column (tokens ++ rest) = bound ++ boundFrom last rest

theorem binds_nil : Binds [] [] := fun column _ => ⟨column, rfl⟩

theorem binds_append {front back : List Token} {before behind : List (String × Param)}
    (bindsFront : Binds front before) (bindsBack : Binds back behind) :
    Binds (front ++ back) (before ++ behind) := by
  intro column rest
  obtain ⟨middle, first⟩ := bindsFront column (back ++ rest)
  obtain ⟨last, second⟩ := bindsBack middle rest
  exact ⟨last, by rw [List.append_assoc, first, second, List.append_assoc]⟩

theorem binds_intercalate {α : Type} {separator : List Token} (silent : Binds separator [])
    {part : α → List Token} {bound : α → List (String × Param)}
    (each : ∀ item, Binds (part item) (bound item)) (items : List α) :
    Binds (List.intercalate separator (items.map part)) (items.flatMap bound) := by
  induction items with
  | nil => exact binds_nil
  | cons item rest ih =>
      cases rest with
      | nil => simpa using each item
      | cons next rest =>
          have later := binds_append silent ih
          rw [List.nil_append] at later
          rw [List.map_cons, List.map_cons, List.intercalate_cons_cons, List.append_assoc,
            List.flatMap_cons]
          exact binds_append (each item) later

theorem Binds.eq {tokens : List Token} {bound : List (String × Param)} (binds : Binds tokens bound)
    (column : String) : boundFrom column tokens = bound := by
  obtain ⟨last, whole⟩ := binds column []
  rw [List.append_nil] at whole
  rw [whole, boundFrom, List.append_nil]

/-! ## Tokens without values -/

def Token.value? : Token → Option Param
  | .value param => some param
  | _ => none

theorem binds_silent (tokens : List Token) (silent : tokens.filterMap Token.value? = []) :
    Binds tokens [] := by
  induction tokens with
  | nil => exact binds_nil
  | cons token rest ih =>
      intro column behind
      cases token with
      | value param => simp [Token.value?] at silent
      | name other => exact ih silent other behind
      | word text => exact ih silent column behind
      | sign text => exact ih silent column behind
      | placeholder number => exact ih silent column behind

theorem Run.values_tokens (run : Run) : run.tokens.filterMap Token.value? = [] := by
  cases run <;> rfl

theorem Run.values_push (run : Run) (c : Char) : (run.push c).1.filterMap Token.value? = [] := by
  have single : (single c).filterMap Token.value? = [] := by
    unfold Run.single
    split
    · rfl
    · split <;> rfl
  have rest := run.values_tokens
  unfold push
  split
  · exact rest
  · split
    · cases run with
      | number read =>
          dsimp only
          split <;> rfl
      | _ => rfl
    · split
      · cases run <;> rfl
      · rw [List.filterMap_append, rest, single, List.nil_append]

theorem values_tokensFrom (run : Run) (found : List Lexeme) :
    (tokensFrom run found).filterMap Token.value? = [] := by
  induction found generalizing run with
  | nil => exact run.values_tokens
  | cons lexeme rest ih =>
      cases lexeme with
      | name identifier =>
          rw [tokensFrom, List.filterMap_append, run.values_tokens]
          exact ih .nothing
      | plain c =>
          rw [tokensFrom, List.filterMap_append, run.values_push, ih, List.nil_append]

theorem values_tokens (pieces : List Fragment) :
    (tokens pieces).filterMap Token.value? = Fragment.params pieces := by
  induction pieces with
  | nil => rfl
  | cons piece rest ih =>
      cases piece with
      | text s =>
          rw [Fragment.tokens_text, List.filterMap_append, ih, textTokens, values_tokensFrom]
          rfl
      | name identifier => exact ih
      | bind param => exact congrArg (param :: ·) ih

theorem binds_unbound (pieces : List Fragment) (unbound : Fragment.params pieces = []) :
    Binds (tokens pieces) [] :=
  binds_silent _ ((values_tokens pieces).trans unbound)

/-! ## Conditions and assignments -/

theorem boundFrom_column (table name column : String) (rest : List Token) :
    boundFrom column (tokens (Fragment.column table name) ++ rest) = boundFrom name rest := by
  unfold Fragment.column
  split
  · rfl
  · rw [Fragment.tokens_name, Fragment.tokens_text, textTokens_point]
    rfl

theorem boundFrom_operator (operator : Operator) (column : String) (rest : List Token) :
    boundFrom column (operatorTokens operator ++ rest) = boundFrom column rest := by
  cases operator <;> rfl

theorem boundFrom_list (params : List Param) (column : String) (rest : List Token) :
    boundFrom column (listTokens params ++ rest) =
      params.map (column, ·) ++ boundFrom column rest := by
  induction params with
  | nil => rfl
  | cons param others ih =>
      cases others with
      | nil => rfl
      | cons next others =>
          have shape : listTokens (param :: next :: others) =
              .value param :: .sign "," :: listTokens (next :: others) := by
            simp [listTokens]
          rw [shape]
          exact congrArg ((column, param) :: ·) ih

theorem binds_test (table name : String) (test : Test) :
    Binds (test.tokens (tokens (Fragment.column table name))) (test.params.map (name, ·)) := by
  intro column rest
  refine ⟨name, ?_⟩
  cases test with
  | isNull negate =>
      rw [Test.tokens, List.append_assoc, boundFrom_column]
      cases negate <;> rfl
  | isAmong negate params =>
      have list := boundFrom_list params name (.sign ")" :: rest)
      have opened : ∀ back, boundFrom name
          ((if negate then [.word "NOT", .word "IN"] else [.word "IN"]) ++ .sign "(" :: back) =
            boundFrom name back := by
        intro back
        cases negate <;> rfl
      rw [Test.tokens, List.append_assoc, boundFrom_column, List.append_assoc, List.cons_append,
        opened, List.append_assoc]
      exact list
  | compare operator lowered param =>
      cases lowered with
      | false =>
          rw [Test.tokens, if_neg Bool.false_ne_true, List.append_assoc, boundFrom_column,
            List.append_assoc, boundFrom_operator]
          rfl
      | true =>
          rw [Test.tokens, if_pos rfl]
          simp only [List.cons_append, List.append_assoc, boundFrom, boundFrom_column,
            boundFrom_operator]
          rfl

theorem binds_entry (table : String) (zone : Offset) (entry : String × Operand) :
    Binds (filledEntry table zone entry) (boundEntry zone entry) := by
  have sign : ∀ text, Binds [.sign text] [] := fun text => binds_silent _ rfl
  generalize shape : Clause.ofCondition table zone entry.1 entry.2 = clause
  have column : clause.column = (Key.ofText entry.1).field := by rw [← shape]; rfl
  have values : clause.tests.flatMap Test.params =
      entry.2.values.filterMap fun value => value.toParam zone := by
    rw [← shape]
    exact Clause.params_ofCondition table zone entry.1 entry.2
  have inner : Binds clause.inner (boundEntry zone entry) := by
    rw [boundEntry, ← values, ← column, List.map_flatMap, Clause.inner]
    split
    · next none =>
        rw [List.isEmpty_iff.mp none]
        cases clause.vacuous <;> exact binds_silent _ rfl
    · exact binds_intercalate (binds_silent _ rfl) (binds_test clause.table clause.column) clause.tests
  have whole := binds_append (sign "(") (binds_append inner (sign ")"))
  rw [filledEntry, shape]
  simpa using whole

theorem binds_conditions (conditions : Conditions) (table : String) (compose : Connective)
    (zone : Offset) : Binds (filledConditions conditions table compose zone)
      (conditions.entries.flatMap (boundEntry zone)) :=
  binds_intercalate (binds_silent _ rfl) (binds_entry table zone) conditions.entries

theorem binds_where (conditions : Conditions) (table : String) (compose : Connective)
    (zone : Offset) : Binds (filledWhere conditions table compose zone)
      (conditions.entries.flatMap (boundEntry zone)) := by
  unfold filledWhere
  split
  · next none =>
      rw [List.isEmpty_iff.mp none]
      exact binds_nil
  · exact binds_append (binds_silent [.word "WHERE"] rfl) (binds_conditions _ _ _ _)

theorem binds_assignments (cells : List (String × Cell)) :
    Binds (List.intercalate [.sign ","] (cells.map filledAssignment)) (boundCells cells) := by
  have each : ∀ entry : String × Cell, Binds (filledAssignment entry) (boundCells [entry]) := by
    intro entry column rest
    refine ⟨entry.1, ?_⟩
    obtain ⟨name, cell⟩ := entry
    cases cell <;> rfl
  have apart : ∀ cells : List (String × Cell),
      cells.flatMap (fun entry => boundCells [entry]) = boundCells cells := by
    intro cells
    induction cells with
    | nil => rfl
    | cons entry rest ih =>
        rw [List.flatMap_cons, ih]
        cases isNull : entry.2.isNull <;> simp [boundCells, isNull]
  rw [← apart]
  exact binds_intercalate (binds_silent _ rfl) each cells

theorem insertion_conditions (conditions : Conditions) (table : String) (compose : Connective)
    (zone : Offset) : insertion (filledConditions conditions table compose zone) = none := by
  obtain ⟨entries, distinct⟩ := conditions
  cases entries with
  | nil => rfl
  | cons entry rest =>
      cases rest with
      | nil => rfl
      | cons next rest => rfl

theorem Command.boundTokens_filled (command : Command) (zone : Offset) :
    boundTokens (command.filled zone) = command.bound zone := by
  cases command with
  | condition conditions table compose =>
      rw [boundTokens, filled, insertion_conditions]
      exact (binds_conditions conditions table compose zone).eq ""
  | insert row =>
      rw [boundTokens, filled, insertion_filled]
      rfl
  | update change =>
      have front : Binds [.word "UPDATE", .name change.table, .word "SET"] [] := binds_silent _ rfl
      have whole := binds_append front (binds_append (binds_assignments change.cells)
        (binds_where change.conditions change.table change.compose zone))
      exact whole.eq ""
  | delete removal =>
      have front : Binds [.word "DELETE", .word "FROM", .name removal.table] [] := binds_silent _ rfl
      have whole := binds_append front
        (binds_where removal.conditions removal.table removal.compose zone)
      exact whole.eq ""
  | select query =>
      have first : Binds [.word "SELECT"] [] := binds_silent _ rfl
      have fields := binds_unbound query.fieldFragments (params_fields query)
      have source : Binds [.word "FROM", .name query.table] [] := binds_silent _ rfl
      have condition := binds_where query.conditions query.table query.compose zone
      have groups := binds_unbound query.groupFragments (params_groups query)
      have whole := binds_append first (binds_append fields (binds_append source
        (binds_append condition groups)))
      rw [List.append_nil] at whole
      exact whole.eq ""

/-- The identifiers deleted, the text of a command has one placeholder for each parameter: the
markers 1, 2, 3 and so on from left to right.  The parameters are the values that were given, nulls
left out: those of the cells first and those of the conditions after them.  With each placeholder
replaced by its parameter the text is the layout of the command: a cell stands at its own column, a
null one as the word `NULL`, and the values of a condition stand in the tests of its own entry.  So the
column that is read for each value is the one that the value was given for. -/
theorem placeholders_match_params (command : Command) (plain : command.Plain) (dialect : Dialect)
    (legible : dialect.Legible) :
    ∃ found, scan dialect.quote (command.statement dialect).sql = some found ∧
      placeholders (Lexeme.remaining found) =
        (List.range' 1 (command.statement dialect).params.length).map dialect.marker ∧
      (command.statement dialect).params = command.given dialect.zone ∧
      (command.statement dialect).tokens? dialect.quote = some (command.filled dialect.zone) ∧
      (command.statement dialect).bound? dialect.quote = some (command.bound dialect.zone) := by
  have spaced := command.spaced plain dialect.zone
  have read : (command.statement dialect).tokens? dialect.quote =
      some (command.filled dialect.zone) := by
    rw [command.statement_eq, ← command.tokens_fragments plain]
    exact Fragment.tokens?_statement legible _ spaced
  refine ⟨Fragment.lexemes dialect 0 (command.fragments dialect.zone), ?_, ?_,
    command.params_statement plain dialect, read, ?_⟩
  · rw [command.statement_eq]
    exact Fragment.scan_sql legible _ spaced
  · rw [command.statement_eq]
    exact Fragment.placeholders_lexemes dialect 0 _ spaced
  · rw [Statement.bound?, read, Option.map_some, command.boundTokens_filled]

/-- The names have quotes and placeholders in them, and a null stands in the cells and in a list. -/
theorem placeholders_match_params_numbered :
    let change : Update :=
      { table := "t\"$9"
        cells := [("a?", .int 1), ("b", .null), ("c", .str "x")]
        conditions := ⟨[("name", .many [.int 2, .null, .int 3]), ("%city?", .one (.str "q"))],
          by decide⟩
        compose := .and }
    let dialect : Dialect := ⟨'"', .numbered, Offset.utc⟩
    (Command.update change).Plain ∧ dialect.Legible ∧
      (change.statement dialect).params =
        [(Cell.int 1).param, (Cell.str "x").param, (Cell.int 2).param, (Cell.int 3).param,
          (Cell.str "q").param] ∧
      (change.statement dialect).tokens? '"' = some
        [.word "UPDATE", .name "t\"$9", .word "SET",
          .name "a?", .sign "=", .value (Cell.int 1).param, .sign ",",
          .name "b", .sign "=", .word "NULL", .sign ",",
          .name "c", .sign "=", .value (Cell.str "x").param,
          .word "WHERE", .sign "(", .name "t\"$9", .sign ".", .name "name", .word "IS", .word "NULL",
          .word "OR", .name "t\"$9", .sign ".", .name "name", .word "IN", .sign "(",
          .value (Cell.int 2).param, .sign ",", .value (Cell.int 3).param, .sign ")", .sign ")",
          .word "AND", .sign "(", .name "t\"$9", .sign ".", .name "city?", .word "LIKE",
          .value (Cell.str "q").param, .sign ")"] ∧
      (change.statement dialect).bound? '"' = some
        [("a?", (Cell.int 1).param), ("c", (Cell.str "x").param), ("name", (Cell.int 2).param),
          ("name", (Cell.int 3).param), ("city?", (Cell.str "q").param)] ∧
      ∃ found, scan '"' (change.statement dialect).sql = some found ∧
        placeholders (Lexeme.remaining found) = ["$1", "$2", "$3", "$4", "$5"] := by
  intro change dialect
  obtain ⟨found, scanned, markers, params, read, bound⟩ :=
    placeholders_match_params (.update change) trivial dialect (by decide)
  have five : (change.statement dialect).params = _ := params
  refine ⟨trivial, by decide, five.trans (by decide), read.trans ?_, bound.trans ?_, found, scanned, ?_⟩
  · decide
  · decide
  · rw [markers, params]
    decide

end RecordMapper.Sql
