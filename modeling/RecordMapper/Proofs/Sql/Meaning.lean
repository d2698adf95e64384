import RecordMapper.Proofs.Sql.ConditionTokens
import RecordMapper.Proofs.Sql.Expression
/-! # The meaning of a condition in SQL

Each test of a clause is read as one predicate (`predicate_reads_test`), a clause as the predicates
joined (`clause_reads`), and the whole as the clauses joined (`read_where`).  `truth_ofCondition`
compares the truth of one clause with the truth of its entry, and `condition_truth` the truth of the
text with that of the condition map. -/
set_option autoImplicit false
namespace RecordMapper.Sql

open Calendar (Offset)
open RecordMapper.Filter (Column Conditions Connective Interpretation Key Operand Operator Truth
  nullTruth)
open Fragment (tokens)
open RecordMapper.Sql.Parser (Reads)

/-! ## Reading a test -/

def Test.Readable : Test → Prop
  | .isAmong _ params => params ≠ []
  | _ => True

def Test.expression (column : Column) : Test → Expression
  | .isNull negate => .isNull negate (.ofColumn column)
  | .isAmong negate params => .among negate (.ofColumn column) params
  | .compare operator lowered param =>
    if lowered then .compare operator (.lowered (.ofColumn column)) (.lowered (.value param))
    else .compare operator (.ofColumn column) (.value param)

theorem said_operator (operator : Operator) (left : Scalar) (rest : List Token) :
    Parser.said left (operatorTokens operator ++ rest) = Parser.compared operator left rest := by
  cases operator <;> rfl

theorem column_reads (table name : String) (rest : List Token)
    (next : rest.head? ≠ some (.sign ".")) :
    Parser.column (tokens (Fragment.column table name) ++ rest) =
      some (Column.of table name, rest) := by
  unfold Fragment.column Column.of
  split
  · cases rest with
    | nil => rfl
    | cons token rest =>
        have differs : token ≠ .sign "." := by simpa using next
        simp [Parser.column, differs]
  · rfl

theorem head_column (table name : String) (rest : List Token) :
    ∃ identifier behind,
      tokens (Fragment.column table name) ++ rest = .name identifier :: behind := by
  unfold Fragment.column
  split
  · exact ⟨_, _, rfl⟩
  · exact ⟨_, _, rfl⟩

theorem atom_reads_column (table name : String) (rest : List Token)
    (next : rest.head? ≠ some (.sign ".")) :
    Parser.atom (tokens (Fragment.column table name) ++ rest) =
      some (.ofColumn (Column.of table name), rest) := by
  have read := column_reads table name rest next
  obtain ⟨identifier, behind, shape⟩ := head_column table name rest
  rw [shape] at read ⊢
  rw [Parser.atom, read]
  · rfl
  · intro param behind same
    simp at same

theorem scalar_reads_column (table name : String) (rest : List Token)
    (next : rest.head? ≠ some (.sign ".")) :
    Parser.scalar (tokens (Fragment.column table name) ++ rest) =
      some (.ofColumn (Column.of table name), rest) := by
  have read := atom_reads_column table name rest next
  obtain ⟨identifier, behind, shape⟩ := head_column table name rest
  rw [shape] at read ⊢
  exact read

theorem scalar_reads_lowered (table name : String) (rest : List Token) :
    Parser.scalar (.word "LOWER" :: .sign "(" ::
        (tokens (Fragment.column table name) ++ .sign ")" :: rest)) =
      some (.lowered (.ofColumn (Column.of table name)), rest) := by
  rw [Parser.scalar, atom_reads_column table name (.sign ")" :: rest) (by simp)]
  rfl

theorem params_reads (params : List Param) (nonempty : params ≠ []) (rest : List Token) :
    Parser.params (listTokens params ++ .sign ")" :: rest) = some (params, rest) := by
  induction params with
  | nil => exact absurd rfl nonempty
  | cons param others ih =>
      cases others with
      | nil => rfl
      | cons next others =>
          have there := ih (by simp)
          simp only [listTokens, List.map_cons, List.intercalate_cons_cons, List.cons_append,
            List.nil_append, Parser.params] at there ⊢
          rw [there]
          rfl

/-- A predicate that begins with a scalar is no comparison of numerals. -/
theorem predicate_eq_said (tokens rest : List Token) (left : Scalar)
    (read : Parser.scalar tokens = some (left, rest)) :
    Parser.predicate tokens = Parser.said left rest := by
  unfold Parser.predicate
  split
  · simp [Parser.scalar, Parser.atom, Parser.column] at read
  · rw [read]
    rfl

theorem predicate_reads_test (table name : String) (test : Test) (readable : test.Readable) :
    Reads Parser.predicate [] (test.tokens (tokens (Fragment.column table name)))
      (test.expression (Column.of table name)) := by
  intro rest _
  cases test with
  | isNull negate =>
      cases negate
      · rw [Test.tokens, List.append_assoc,
          predicate_eq_said _ _ _ (scalar_reads_column table name _ (by simp))]
        rfl
      · rw [Test.tokens, List.append_assoc,
          predicate_eq_said _ _ _ (scalar_reads_column table name _ (by simp))]
        rfl
  | isAmong negate params =>
      have list := params_reads params readable rest
      cases negate
      · rw [Test.tokens, List.append_assoc,
          predicate_eq_said _ _ _ (scalar_reads_column table name _ (by simp))]
        simp only [Bool.false_eq_true, if_false, List.append_assoc, List.cons_append,
          List.nil_append, Parser.said, list]
        rfl
      · rw [Test.tokens, List.append_assoc,
          predicate_eq_said _ _ _ (scalar_reads_column table name _ (by simp))]
        simp only [if_true, List.append_assoc, List.cons_append, List.nil_append, Parser.said, list]
        rfl
  | compare operator lowered param =>
      cases lowered with
      | false =>
          have next : (operatorTokens operator ++ (.value param :: rest)).head? ≠ some (.sign ".") := by
            cases operator <;> simp [operatorTokens, Operator.sql]
          simp only [Test.tokens, Bool.false_eq_true, if_false, List.append_assoc, List.cons_append,
            List.nil_append]
          rw [predicate_eq_said _ _ _ (scalar_reads_column table name _ next), said_operator]
          rfl
      | true =>
          simp only [Test.tokens, if_true, List.append_assoc, List.cons_append, List.nil_append]
          rw [predicate_eq_said _ _ _ (scalar_reads_lowered table name _), said_operator]
          rfl

theorem factor_eq_predicate (inner : Parser Expression) (table name : String) (test : Test)
    (rest : List Token) :
    Parser.factor inner (test.tokens (tokens (Fragment.column table name)) ++ rest) =
      Parser.predicate (test.tokens (tokens (Fragment.column table name)) ++ rest) := by
  have begins : ∀ back, Parser.factor inner (tokens (Fragment.column table name) ++ back) =
      Parser.predicate (tokens (Fragment.column table name) ++ back) := by
    intro back
    obtain ⟨identifier, behind, shape⟩ := head_column table name back
    rw [shape]
    rfl
  cases test with
  | isNull negate =>
      rw [Test.tokens, List.append_assoc]
      exact begins _
  | isAmong negate params =>
      rw [Test.tokens, List.append_assoc]
      exact begins _
  | compare operator lowered param =>
      cases lowered with
      | false =>
          simp only [Test.tokens, Bool.false_eq_true, if_false, List.append_assoc]
          exact begins _
      | true => rfl

/-! ## Reading clauses -/

/-- What a clause is read as: its tests joined, or a comparison of numerals. -/
def Clause.expression (clause : Clause) : Expression :=
  (Parser.group clause.join (clause.tests.map (Test.expression (Column.of clause.table
    clause.column)))).getD (.numerals 1 (if clause.vacuous then 1 else 0))

/-- Inside the parentheses of a clause nothing is in parentheses, so that any depth will do. -/
theorem expression_reads_inner (depth : Nat) (clause : Clause)
    (readable : ∀ test ∈ clause.tests, test.Readable) :
    Reads (Parser.expression depth) ["AND", "OR"] clause.inner clause.expression := by
  unfold Clause.inner
  split
  · next empty =>
      have constant : clause.expression = .numerals 1 (if clause.vacuous then 1 else 0) := by
        simp [Clause.expression, List.isEmpty_iff.mp empty, Parser.group]
      have each : Reads Parser.predicate []
          [.word "1", .sign "=", .word (if clause.vacuous then "1" else "0")] clause.expression := by
        intro rest _
        rw [constant]
        cases clause.vacuous <;> rfl
      cases depth with
      | zero => exact Parser.disjunction_reads_one each
      | succ depth => exact Parser.disjunction_reads_one each
  · next some =>
      have nonempty : clause.tests.map (Test.expression (Column.of clause.table
          clause.column)) ≠ [] := by simpa using some
      obtain ⟨whole, grouped⟩ := Parser.group_eq_some clause.join _ nonempty
      have same : clause.expression = whole := by simp [Clause.expression, grouped]
      have each : ∀ test ∈ clause.tests, Reads Parser.predicate []
          (test.tokens (tokens (Fragment.column clause.table clause.column)))
          (test.expression (Column.of clause.table clause.column)) :=
        fun test member => predicate_reads_test _ _ test (readable test member)
      rw [same]
      cases depth with
      | zero => exact Parser.disjunction_reads clause.join clause.tests each grouped
      | succ depth =>
          refine Parser.disjunction_reads clause.join clause.tests (fun test member rest free => ?_)
            grouped
          rw [factor_eq_predicate]
          exact each test member rest free

theorem clause_reads (depth : Nat) (clause : Clause)
    (readable : ∀ test ∈ clause.tests, test.Readable) :
    Reads (Parser.factor (Parser.expression depth)) [] (.sign "(" :: (clause.inner ++ [.sign ")"]))
      clause.expression := by
  intro rest _
  have free : ∀ word ∈ ["AND", "OR"], (Token.sign ")" :: rest).head? ≠ some (.word word) := by simp
  have inner := expression_reads_inner depth clause readable _ free
  simp only [List.cons_append, List.append_assoc, List.nil_append, Parser.factor, inner]

theorem read_where (w : Where) (readable : ∀ clause ∈ w.clauses, ∀ test ∈ clause.tests, test.Readable)
    {whole : Expression}
    (grouped : Parser.group w.compose (w.clauses.map Clause.expression) = some whole) :
    tokens w.fragments ≠ [] ∧ Expression.read (tokens w.fragments) = some whole := by
  have nonempty : tokens w.fragments ≠ [] := by
    rw [tokens_where]
    cases shape : w.clauses with
    | nil => simp [shape, Parser.group] at grouped
    | cons clause rest => simp
  obtain ⟨depth, deep⟩ := Nat.exists_eq_succ_of_ne_zero
    (fun none => nonempty (List.length_eq_zero_iff.mp none))
  have read := Parser.disjunction_reads w.compose w.clauses
    (fun clause member => clause_reads depth clause (readable clause member)) grouped []
    (by simp)
  rw [List.append_nil, ← tokens_where] at read
  refine ⟨nonempty, ?_⟩
  rw [Expression.read, deep, Nat.succ_eq_add_one, Parser.expression, read]

/-! ## What was read, and what was meant -/

section
variable {V : Type} (m : Interpretation V) (row : Column → Option V)

theorem truth_among (negate : Bool) (column : Column) (params : List Param)
    (nonempty : params ≠ []) :
    (Expression.among negate (.ofColumn column) params).truth m row =
      m.member negate (row column) (params.map m.value) := by
  -- On a value no comparison is unknown, so that the folds are those of truth values;
  -- on a null all are, and one of them is enough since the list is not empty.
  have either : ∀ bools : List Bool,
      (bools.map Truth.ofBool).foldr Truth.or .no = .ofBool (bools.any id) := by
    intro bools
    induction bools with
    | nil => rfl
    | cons b rest ih =>
        rw [List.map_cons, List.foldr_cons, ih, List.any_cons]
        cases b <;> cases rest.any id <;> rfl
  have both : ∀ bools : List Bool,
      (bools.map Truth.ofBool).foldr Truth.and .yes = .ofBool (bools.all id) := by
    intro bools
    induction bools with
    | nil => rfl
    | cons b rest ih =>
        rw [List.map_cons, List.foldr_cons, ih, List.all_cons]
        cases b <;> cases rest.all id <;> rfl
  have unknown : ∀ combine : Truth → Truth → Truth, ∀ start : Truth,
      combine .unknown start = .unknown → combine .unknown .unknown = .unknown →
      (params.map fun _ => Truth.unknown).foldr combine start = .unknown := by
    intro combine start last step
    induction params with
    | nil => exact absurd rfl nonempty
    | cons param rest ih =>
        cases rest with
        | nil => exact last
        | cons next rest =>
            have there := ih (by simp)
            rw [List.map_cons, List.foldr_cons, there, step]
  cases present : row column with
  | none =>
      cases negate
      · simp only [Expression.truth, Scalar.eval, present, Interpretation.compare]
        exact unknown Truth.or .no rfl rfl
      · simp only [Expression.truth, Scalar.eval, present, Interpretation.compare]
        exact unknown Truth.and .yes rfl rfl
  | some a =>
      cases negate
      · have all := either (params.map fun param => m.holds .eq a (m.value param))
        simp only [List.map_map, List.any_map] at all
        simp only [Expression.truth, Scalar.eval, present, Interpretation.compare,
          Interpretation.member, Bool.false_eq_true, if_false, List.any_map]
        exact all
      · have all := both (params.map fun param => m.holds .ne a (m.value param))
        simp only [List.map_map, List.all_map] at all
        simp only [Expression.truth, Scalar.eval, present, Interpretation.compare,
          Interpretation.member, if_true, List.all_map]
        exact all

theorem truth_compare (key : Key) (column : Column) (param : Param) :
    ((Test.compare key.effectiveOperator key.caseInsensitive param).expression column).truth m row =
      key.compareTruth m (row column) param := by
  unfold Test.expression Key.compareTruth
  cases key.caseInsensitive <;> rfl

theorem truth_clause (clause : Clause) :
    clause.expression.truth m row =
      if clause.tests.isEmpty then .ofBool clause.vacuous
      else clause.join.join (clause.tests.map fun test =>
        (test.expression (Column.of clause.table clause.column)).truth m row) := by
  split
  · next empty =>
      simp only [Clause.expression, List.isEmpty_iff.mp empty, List.map_nil, Parser.group,
        Option.getD_none]
      cases clause.vacuous <;> rfl
  · next some =>
      have nonempty : clause.tests.map (Test.expression (Column.of clause.table
          clause.column)) ≠ [] := by simpa using some
      obtain ⟨whole, grouped⟩ := Parser.group_eq_some clause.join _ nonempty
      have truth := Expression.truth_group m row clause.join _ grouped
      rw [Clause.expression, grouped, Option.getD_some, truth, List.map_map]
      rfl

end

theorem caseInsensitive_ofText (raw : String) (equality : (Key.ofText raw).operator = .eq) :
    (Key.ofText raw).caseInsensitive = false := by
  have split : ∀ cs, (Key.splitOperator cs).1.1 = .eq → (Key.splitOperator cs).1.2 = false := by
    intro cs
    unfold Key.splitOperator
    split <;> simp
  exact split _ equality

section
variable {V : Type} (m : Interpretation V) (row : Column → Option V)

theorem truth_valueTests (key : Key) (sensitive : key.operator = .eq → key.caseInsensitive = false)
    (column : Column) (params : List Param) :
    ((Clause.valueTests key params).map fun test => (test.expression column).truth m row) =
      if key.operator = .eq then
        if params.isEmpty then [] else [m.member key.negate (row column) (params.map m.value)]
      else params.map (key.compareTruth m (row column)) := by
  have apart : (params.map fun param => Test.compare key.effectiveOperator key.caseInsensitive
      param).map (fun test => (test.expression column).truth m row) =
      params.map (key.compareTruth m (row column)) := by
    rw [List.map_map]
    exact congrArg (List.map · params) (funext fun param => truth_compare m row key column param)
  unfold Clause.valueTests
  by_cases equality : key.operator = .eq
  · rw [if_pos equality]
    match params with
    | [] => simp
    | [param] =>
        rw [if_neg (by simp), apart]
        have single : key.compareTruth m (row column) param =
            m.member key.negate (row column) [m.value param] := by
          simp only [Key.compareTruth, sensitive equality, Key.effectiveOperator,
            Key.negatedOperator, equality, Operator.complement, Bool.false_eq_true, if_false]
          cases row column with
          | none => rfl
          | some a => cases key.negate <;> simp [Interpretation.compare, Interpretation.member]
        simp [single]
    | first :: second :: rest =>
        have among := truth_among m row key.negate column (first :: second :: rest) (by simp)
        rw [if_pos (by simp [equality])]
        simp only [List.map_singleton, Test.expression, among, List.isEmpty_cons,
          Bool.false_eq_true, if_false]
  · rw [if_neg equality, if_neg (by simp [equality]), apart]

theorem truth_listTests (key : Key) (sensitive : key.operator = .eq → key.caseInsensitive = false)
    (column : Column) (values : List Value) (zone : Offset) :
    ((Clause.listTests key values zone).map fun test => (test.expression column).truth m row) =
      key.termTruths m (row column) values zone := by
  rw [Clause.listTests, List.map_append, truth_valueTests m row key sensitive]
  unfold Key.termTruths
  split <;> rfl

/-- A clause is true of a row as its entry is. -/
theorem truth_ofCondition (table : String) (zone : Offset) (raw : String) (operand : Operand) :
    (Clause.ofCondition table zone raw operand).expression.truth m row =
      (Key.ofText raw).truth m (row (Column.of table (Key.ofText raw).field)) zone operand := by
  have sensitive := caseInsensitive_ofText raw
  have constant : ∀ key : Key, Truth.ofBool (Clause.vacuousTruth key) = key.vacuous := by
    intro key
    unfold Clause.vacuousTruth Key.vacuous
    split
    · rfl
    · cases key.join <;> rfl
  have list : ∀ values : List Value, ∀ tests,
      tests = Clause.listTests (Key.ofText raw) values zone →
      (if tests.isEmpty then Truth.ofBool (Clause.vacuousTruth (Key.ofText raw))
        else (Key.ofText raw).join.join (tests.map fun test =>
          (test.expression (Column.of table (Key.ofText raw).field)).truth m row)) =
      (Key.ofText raw).listTruth m (row (Column.of table (Key.ofText raw).field)) values zone := by
    rintro values tests rfl
    have terms := truth_listTests m row (Key.ofText raw) sensitive
      (Column.of table (Key.ofText raw).field) values zone
    rw [Key.listTruth, ← terms]
    cases shape : Clause.listTests (Key.ofText raw) values zone with
    | nil => exact constant _
    | cons first rest => rfl
  rw [truth_clause]
  cases operand with
  | null => rfl
  | one value =>
      cases value with
      | null => rfl
      | bool b => exact list _ _ rfl
      | int n => exact list _ _ rfl
      | float x => exact list _ _ rfl
      | str s => exact list _ _ rfl
      | timestamp t => exact list _ _ rfl
      | json document => exact list _ _ rfl
  | many values => exact list values _ rfl

end

theorem readable_ofCondition (table : String) (zone : Offset) (raw : String) (operand : Operand) :
    ∀ test ∈ (Clause.ofCondition table zone raw operand).tests, test.Readable := by
  have values : ∀ key params, ∀ test ∈ Clause.valueTests key params, test.Readable := by
    intro key params test member
    unfold Clause.valueTests at member
    split at member
    · next many =>
        obtain rfl := List.mem_singleton.mp member
        rintro rfl
        simp at many
    · obtain ⟨param, -, rfl⟩ := List.mem_map.mp member
      exact trivial
  have list : ∀ key vs, ∀ test ∈ Clause.listTests key vs zone, test.Readable := by
    intro key vs test member
    rw [Clause.listTests, List.mem_append] at member
    rcases member with found | found
    · split at found
      · obtain rfl := List.mem_singleton.mp found
        exact trivial
      · simp at found
    · exact values key _ test found
  intro test member
  cases operand with
  | null =>
      obtain rfl := List.mem_singleton.mp member
      exact trivial
  | one value => exact list _ _ test member
  | many vs => exact list _ _ test member

end RecordMapper.Sql
