import Mathlib.Data.List.Forall2
import RecordMapper.Proofs.Sql.Command
/-! # Commands that differ in names and values

Two commands are alike if they differ in nothing but the names of tables and columns, which are
related one by one, and in the values that are not null.  Alike commands are written in the same
pieces (`Command.fragments_alike`).  With the same names they have the same text, whatever the values
(`Command.sql_eq_of_alike`). -/
set_option autoImplicit false
namespace RecordMapper

open Calendar (Offset)
open RecordMapper.Filter (Conditions Connective Key Operand)

/-! ## The relation -/

section
variable (names : String → String → Prop)

structure Filter.Key.Alike (key other : Key) : Prop where
  field : names key.field other.field
  marks : key.withField "" = other.withField ""

/-- Operands of one form with their nulls in the same places. -/
inductive Filter.Operand.Alike : Operand → Operand → Prop
  | null : Alike .null .null
  | one {value other : Value} : value.isNull = other.isNull → Alike (.one value) (.one other)
  | many {values others : List Value} :
      values.map Value.isNull = others.map Value.isNull → Alike (.many values) (.many others)

def Filter.Conditions.Alike (conditions others : Conditions) : Prop :=
  List.Forall₂ (fun entry other => (Key.ofText entry.1).Alike names (Key.ofText other.1) ∧
    entry.2.Alike other.2) conditions.entries others.entries

namespace Sql

/-- Related names of tables that qualify their columns, or do not because they are empty. -/
structure TablesAlike (table other : String) : Prop where
  name : names table other
  isEmpty : table.isEmpty = other.isEmpty

def CellsAlike (cells others : List (String × Cell)) : Prop :=
  List.Forall₂ (fun entry other => names entry.1 other.1 ∧ entry.2.isNull = other.2.isNull)
    cells others

structure SelectField.ExpressionsAlike (field other : SelectField) : Prop where
  column : names field.column other.column
  all : field.column = "*" ↔ other.column = "*"
  count : field.count = other.count

structure SelectField.Alike (field other : SelectField) : Prop
    extends field.ExpressionsAlike names other where
  outputName : Option.Rel names field.outputName other.outputName

structure Select.Alike (select other : Select) : Prop where
  table : TablesAlike names select.table other.table
  fields : List.Forall₂ (SelectField.Alike names) select.fields other.fields
  conditions : select.conditions.Alike names other.conditions
  compose : select.compose = other.compose
  groupBy : List.Forall₂ (fun entry other => (SelectField.ofText entry).ExpressionsAlike names
    (SelectField.ofText other)) select.groupBy other.groupBy
  orderBy : select.orderBy = other.orderBy
  raw : select.raw = other.raw

inductive Command.Alike : Command → Command → Prop
  | condition {conditions others : Conditions} {table other : String} {compose : Connective} :
      conditions.Alike names others → TablesAlike names table other →
      Alike (.condition conditions table compose) (.condition others other compose)
  | insert {row other : Insert} : names row.table other.table →
      CellsAlike names row.cells other.cells → Alike (.insert row) (.insert other)
  | update {change other : Update} : TablesAlike names change.table other.table →
      CellsAlike names change.cells other.cells →
      change.conditions.Alike names other.conditions → change.compose = other.compose →
      Alike (.update change) (.update other)
  | delete {removal other : Delete} : TablesAlike names removal.table other.table →
      removal.conditions.Alike names other.conditions → removal.compose = other.compose →
      Alike (.delete removal) (.delete other)
  | select {query other : Select} : query.Alike names other →
      Alike (.select query) (.select other)

inductive Fragment.Alike : Fragment → Fragment → Prop
  | text (s : String) : Alike (.text s) (.text s)
  | name {identifier other : String} : names identifier other →
      Alike (.name identifier) (.name other)
  | bind (param other : Param) : Alike (.bind param) (.bind other)

abbrev Fragment.AllAlike : List Fragment → List Fragment → Prop :=
  List.Forall₂ (Fragment.Alike names)

/-- The same test of two values, or of two lists of the same length. -/
inductive Test.Alike : Test → Test → Prop
  | isNull (negate : Bool) : Alike (.isNull negate) (.isNull negate)
  | isAmong {negate : Bool} {params others : List Param} : params.length = others.length →
      Alike (.isAmong negate params) (.isAmong negate others)
  | compare (operator : Filter.Operator) (lowered : Bool) (param other : Param) :
      Alike (.compare operator lowered param) (.compare operator lowered other)

structure Clause.Alike (clause other : Clause) : Prop where
  table : TablesAlike names clause.table other.table
  column : names clause.column other.column
  join : clause.join = other.join
  tests : List.Forall₂ Test.Alike clause.tests other.tests
  vacuous : clause.vacuous = other.vacuous

structure Where.Alike (w other : Where) : Prop where
  compose : w.compose = other.compose
  clauses : List.Forall₂ (Clause.Alike names) w.clauses other.clauses

end Sql

end

/-! ## Pieces -/

namespace Sql
variable {names : String → String → Prop}

namespace Fragment

theorem alike_append {front front' back back' : List Fragment} (first : AllAlike names front front')
    (second : AllAlike names back back') : AllAlike names (front ++ back) (front' ++ back') :=
  List.rel_append first second

theorem alike_text (s : String) {pieces others : List Fragment} (rest : AllAlike names pieces others) :
    AllAlike names (.text s :: pieces) (.text s :: others) :=
  .cons (.text s) rest

theorem alike_name {identifier other : String} (related : names identifier other)
    {pieces others : List Fragment} (rest : AllAlike names pieces others) :
    AllAlike names (.name identifier :: pieces) (.name other :: others) :=
  .cons (.name related) rest

theorem alike_bind (param other : Param) {pieces others : List Fragment}
    (rest : AllAlike names pieces others) :
    AllAlike names (.bind param :: pieces) (.bind other :: others) :=
  .cons (.bind param other) rest

theorem alike_joined (separator : String) {parts others : List (List Fragment)}
    (alike : List.Forall₂ (AllAlike names) parts others) :
    AllAlike names (joined separator parts) (joined separator others) := by
  induction alike with
  | nil => exact .nil
  | cons here rest ih =>
      cases rest with
      | nil => simpa [joined] using here
      | cons next rest =>
          rw [joined_cons_cons, joined_cons_cons]
          exact alike_append here (alike_text separator ih)

theorem alike_cell {c d : Cell} (nulls : c.isNull = d.isNull) :
    AllAlike names [cell c] [cell d] := by
  rw [cell, cell, nulls]
  split
  · exact alike_text "null" .nil
  · exact alike_bind _ _ .nil

theorem alike_column {table other name name' : String} (tables : TablesAlike names table other)
    (related : names name name') : AllAlike names (column table name) (column other name') := by
  rw [column, column, tables.isEmpty]
  split
  · exact alike_name related .nil
  · exact alike_name tables.name (alike_text "." (alike_name related .nil))

theorem alike_separated {α β : Type} {R : α → β → Prop} (separator : String)
    {pieces : α → List Fragment} {pieces' : β → List Fragment} {xs : List α} {ys : List β}
    (related : List.Forall₂ R xs ys) (each : ∀ x y, R x y → AllAlike names (pieces x) (pieces' y)) :
    AllAlike names (joined separator (xs.map pieces)) (joined separator (ys.map pieces')) :=
  alike_joined separator (List.rel_map each related)

end Fragment

open Fragment

theorem forall₂_of_length {α β : Type} {R : α → β → Prop} (all : ∀ a b, R a b) {xs : List α}
    {ys : List β} (length : xs.length = ys.length) : List.Forall₂ R xs ys :=
  List.forall₂_iff_get.mpr ⟨length, fun _ _ _ => all _ _⟩

/-! ## Conditions -/

theorem alike_test {column column' : List Fragment} (columns : AllAlike names column column')
    {test other : Test} (alike : test.Alike other) :
    AllAlike names (test.fragments column) (other.fragments column') := by
  cases alike with
  | isNull negate => exact alike_append columns (alike_text _ .nil)
  | isAmong length =>
      have params : AllAlike names _ _ := alike_separated ","
        (forall₂_of_length (R := fun _ _ => True) (fun _ _ => trivial) length)
        (fun param other _ => alike_bind param other .nil)
      exact alike_append (alike_append (alike_append columns (alike_text _ .nil)) params)
        (alike_text ")" .nil)
  | compare operator lowered param other =>
      rw [Test.fragments, Test.fragments]
      split
      · exact alike_append (alike_append (alike_text "LOWER(" .nil) columns)
          (alike_text _ (alike_bind param other (alike_text ")" .nil)))
      · exact alike_append columns (alike_text _ (alike_bind param other .nil))

theorem isEmpty_of_forall₂ {α β : Type} {R : α → β → Prop} {xs : List α} {ys : List β}
    (related : List.Forall₂ R xs ys) : xs.isEmpty = ys.isEmpty := by
  cases related <;> rfl

theorem alike_clause {clause other : Clause} (alike : clause.Alike names other) :
    AllAlike names clause.fragments other.fragments := by
  have columns := alike_column alike.table alike.column
  have body : AllAlike names clause.body other.body := by
    rw [Clause.body, Clause.body, isEmpty_of_forall₂ alike.tests, alike.vacuous, alike.join]
    split
    · exact alike_text _ .nil
    · exact alike_separated _ alike.tests fun _ _ tests => alike_test columns tests
  rw [clause.fragments_eq_body, other.fragments_eq_body]
  exact alike_text "(" (alike_append body (alike_text ")" .nil))

theorem length_toParam (zone : Offset) (values : List Value) :
    (values.filterMap fun value => value.toParam zone).length =
      values.countP fun value => !value.isNull := by
  rw [List.length_filterMap_eq_countP]
  refine List.countP_congr fun value _ => ?_
  cases value <;> simp [Value.toParam, Value.isNull]

theorem alike_valueTests (key : Key) {params others : List Param}
    (length : params.length = others.length) :
    List.Forall₂ Test.Alike (Clause.valueTests key params) (Clause.valueTests key others) := by
  rw [Clause.valueTests, Clause.valueTests, length]
  split
  · exact .cons (.isAmong length) .nil
  · exact List.rel_map (fun _ _ _ => .compare _ _ _ _)
      (forall₂_of_length (R := fun _ _ => True) (fun _ _ => trivial) length)

theorem alike_listTests (key : Key) (zone : Offset) {values others : List Value}
    (nulls : values.map Value.isNull = others.map Value.isNull) :
    List.Forall₂ Test.Alike (Clause.listTests key values zone)
      (Clause.listTests key others zone) := by
  have any : values.any Value.isNull = others.any Value.isNull := by
    have mapped := congrArg (List.any · id) nulls
    simpa [List.any_map] using mapped
  have bound : (values.countP fun value => !value.isNull) =
      others.countP fun value => !value.isNull := by
    have mapped := congrArg (List.countP (!·)) nulls
    simpa only [List.countP_map, Function.comp_def] using mapped
  rw [← length_toParam zone, ← length_toParam zone] at bound
  rw [Clause.listTests, Clause.listTests, any]
  refine List.rel_append ?_ (alike_valueTests key bound)
  split
  · exact .cons (.isNull _) .nil
  · exact .nil

theorem alike_operandTests (key : Key) (zone : Offset) {operand other : Operand}
    (alike : operand.Alike other) :
    List.Forall₂ Test.Alike (Clause.operandTests key operand zone)
      (Clause.operandTests key other zone) := by
  cases alike with
  | null => exact .cons (.isNull _) .nil
  | one nulls => exact alike_listTests key zone (congrArg (fun null => [null]) nulls)
  | many nulls => exact alike_listTests key zone nulls

theorem alike_ofCondition {table table' : String} (tables : TablesAlike names table table')
    (zone : Offset) {raw raw' : String} (keys : (Key.ofText raw).Alike names (Key.ofText raw'))
    {operand other : Operand} (alike : operand.Alike other) :
    (Clause.ofCondition table zone raw operand).Alike names
      (Clause.ofCondition table' zone raw' other) := by
  have marks := keys.marks
  have tests := alike_operandTests ((Key.ofText raw).withField "") zone alike
  nth_rewrite 2 [marks] at tests
  have join : ((Key.ofText raw).withField "").join = ((Key.ofText raw').withField "").join :=
    congrArg Key.join marks
  have vacuous : Clause.vacuousTruth ((Key.ofText raw).withField "") =
      Clause.vacuousTruth ((Key.ofText raw').withField "") := congrArg Clause.vacuousTruth marks
  exact ⟨tables, keys.field, join, tests, vacuous⟩

theorem alike_ofConditions {conditions others : Conditions} (alike : conditions.Alike names others)
    {table table' : String} (tables : TablesAlike names table table') {compose compose' : Connective}
    (composes : compose = compose') (zone : Offset) :
    (Where.ofConditions conditions table compose zone).Alike names
      (Where.ofConditions others table' compose' zone) :=
  ⟨composes, List.rel_map (fun _ _ entries => alike_ofCondition tables zone entries.1 entries.2) alike⟩

theorem alike_where {w other : Where} (alike : w.Alike names other) :
    AllAlike names w.fragments other.fragments := by
  rw [Where.fragments, Where.fragments, alike.compose]
  exact alike_separated _ alike.clauses fun _ _ => alike_clause

theorem alike_suffix {w other : Where} (alike : w.Alike names other) :
    AllAlike names w.suffix other.suffix := by
  rw [Where.suffix, Where.suffix, isEmpty_of_forall₂ alike.clauses]
  split
  · exact .nil
  · exact alike_text " WHERE " (alike_where alike)

/-! ## Statements -/

theorem alike_insert {row other : Insert} (tables : names row.table other.table)
    (cells : CellsAlike names row.cells other.cells) :
    AllAlike names row.fragments other.fragments := by
  have columns : AllAlike names _ _ := alike_separated "," cells
    fun _ _ entries => alike_name entries.1 .nil
  have values : AllAlike names _ _ := alike_separated "," cells
    fun _ _ entries => alike_cell entries.2
  rw [Insert.fragments, Insert.fragments, isEmpty_of_forall₂ cells]
  split
  · exact alike_text "INSERT INTO " (alike_name tables (alike_text " DEFAULT VALUES" .nil))
  · have front := alike_text "INSERT INTO " (alike_name tables (alike_text " (" .nil))
    exact alike_append (alike_append (alike_append (alike_append front columns)
      (alike_text ") VALUES (" .nil)) values) (alike_text ")" .nil)

theorem alike_update {change other : Update} (tables : TablesAlike names change.table other.table)
    (cells : CellsAlike names change.cells other.cells)
    (conditions : change.conditions.Alike names other.conditions)
    (compose : change.compose = other.compose) (zone : Offset) :
    AllAlike names (change.fragments zone) (other.fragments zone) := by
  have assignments : AllAlike names _ _ := alike_separated ", " cells fun entry entry' entries =>
    show AllAlike names (Update.assignment entry) (Update.assignment entry') from
      alike_name entries.1 (alike_text " = " (alike_cell entries.2))
  have suffix := alike_suffix (alike_ofConditions conditions tables compose zone)
  exact alike_append (alike_append
    (alike_text "UPDATE " (alike_name tables.name (alike_text " SET " .nil))) assignments) suffix

theorem alike_delete {removal other : Delete}
    (tables : TablesAlike names removal.table other.table)
    (conditions : removal.conditions.Alike names other.conditions)
    (compose : removal.compose = other.compose) (zone : Offset) :
    AllAlike names (removal.fragments zone) (other.fragments zone) := by
  have suffix := alike_suffix (alike_ofConditions conditions tables compose zone)
  exact alike_append (alike_text "DELETE FROM " (alike_name tables.name .nil)) suffix

theorem alike_expression {field other : SelectField} (alike : field.ExpressionsAlike names other)
    {table table' : String} (tables : TablesAlike names table table') :
    AllAlike names (field.expression table) (other.expression table') := by
  have column : AllAlike names
      (if field.column = "*" then if table.isEmpty then [.text "*"] else [.name table, .text ".*"]
        else Fragment.column table field.column)
      (if other.column = "*" then if table'.isEmpty then [.text "*"] else [.name table', .text ".*"]
        else Fragment.column table' other.column) := by
    simp only [alike.all, tables.isEmpty]
    split
    · split
      · exact alike_text "*" .nil
      · exact alike_name tables.name (alike_text ".*" .nil)
    · exact alike_column tables alike.column
  rw [SelectField.expression, SelectField.expression, alike.count]
  split
  · exact alike_append (alike_append (alike_text "COUNT(" .nil) column) (alike_text ")" .nil)
  · exact column

theorem alike_field {field other : SelectField} (alike : field.Alike names other)
    {table table' : String} (tables : TablesAlike names table table') :
    AllAlike names (field.fragments table) (other.fragments table') := by
  have expression := alike_expression alike.toExpressionsAlike tables
  have output := alike.outputName
  rw [SelectField.fragments, SelectField.fragments]
  generalize field.outputName = found at output
  generalize other.outputName = found' at output
  cases output with
  | none => exact expression
  | some related => exact alike_append expression (alike_text " AS " (alike_name related .nil))

theorem alike_select {select other : Select} (alike : select.Alike names other) (zone : Offset) :
    AllAlike names (select.fragments zone) (other.fragments zone) := by
  have fields : AllAlike names select.fieldFragments other.fieldFragments := by
    rw [Select.fieldFragments, Select.fieldFragments, isEmpty_of_forall₂ alike.fields]
    split
    · exact alike_text "*" .nil
    · exact alike_separated ", " alike.fields fun _ _ fields => alike_field fields alike.table
  have groups : AllAlike names select.groupFragments other.groupFragments := by
    rw [Select.groupFragments, Select.groupFragments, isEmpty_of_forall₂ alike.groupBy]
    split
    · exact .nil
    · exact alike_text " GROUP BY " (alike_separated ", " alike.groupBy
        fun _ _ fields => alike_expression fields alike.table)
  have verbatim : ∀ texts : List Fragment, (∀ piece ∈ texts, ∃ s, piece = .text s) →
      AllAlike names texts texts := by
    intro texts fixed
    refine List.forall₂_same.mpr fun piece member => ?_
    obtain ⟨s, rfl⟩ := fixed piece member
    exact .text s
  have order : AllAlike names select.orderFragments other.orderFragments := by
    rw [Select.orderFragments, Select.orderFragments, alike.orderBy]
    exact verbatim _ (by split <;> simp)
  have raw : AllAlike names select.rawFragments other.rawFragments := by
    rw [Select.rawFragments, Select.rawFragments, alike.raw]
    exact verbatim _ (by split <;> simp)
  have suffix := alike_suffix (alike_ofConditions alike.conditions alike.table alike.compose zone)
  have front := alike_append (alike_append (alike_text "SELECT " .nil) fields)
    (alike_text " FROM " (alike_name alike.table.name .nil))
  exact alike_append (alike_append (alike_append (alike_append front suffix) groups) order) raw

/-- Alike commands are written in the same pieces, but for names and parameters. -/
theorem Command.fragments_alike {command other : Command} (alike : command.Alike names other)
    (zone : Offset) : AllAlike names (command.fragments zone) (other.fragments zone) := by
  cases alike with
  | condition conditions tables => exact alike_where (alike_ofConditions conditions tables rfl zone)
  | insert tables cells => exact alike_insert tables cells
  | update tables cells conditions compose => exact alike_update tables cells conditions compose zone
  | delete tables conditions compose => exact alike_delete tables conditions compose zone
  | select queries => exact alike_select queries zone

/-! ## The same names -/

theorem Fragment.sql_congr (dialect : Dialect) (n : Nat) {pieces others : List Fragment}
    (alike : AllAlike Eq pieces others) : sql dialect n pieces = sql dialect n others := by
  induction alike generalizing n with
  | nil => rfl
  | cons piece _ ih =>
      cases piece with
      | text s => rw [sql, sql, ih]
      | name same => rw [sql, sql, ih, same]
      | bind param other => rw [sql, sql, ih]

theorem Fragment.length_params_of_alike {pieces others : List Fragment}
    (alike : AllAlike names pieces others) : (params pieces).length = (params others).length := by
  induction alike with
  | nil => rfl
  | cons piece _ ih =>
      cases piece with
      | text s => exact ih
      | name related => exact ih
      | bind param other => exact congrArg (· + 1) ih

/-- No value gets into the text of a statement: two commands that differ in the values only that
are not null have the same text, and as many parameters the one as the other. -/
theorem Command.sql_eq_of_alike {command other : Command} (alike : command.Alike Eq other)
    (dialect : Dialect) :
    (command.statement dialect).sql = (other.statement dialect).sql ∧
      (command.statement dialect).params.length = (other.statement dialect).params.length := by
  have pieces := Command.fragments_alike alike dialect.zone
  rw [command.statement_eq, other.statement_eq]
  exact ⟨Fragment.sql_congr dialect 0 pieces, Fragment.length_params_of_alike pieces⟩

theorem Command.sql_eq_of_alike_update :
    let first : Command := .update
      ⟨"users", [("name", .str "Ann"), ("born", .null)],
        ⟨[("id", .one (.int 1)), ("!*city", .many [.str "Oslo", .null, .str "Rome"])], by decide⟩, .or⟩
    let second : Command := .update
      ⟨"users", [("name", .str "\x60 = \x60"), ("born", .null)],
        ⟨[("id", .one (.str "?")), ("!*city", .many [.bool true, .null, .str ""])], by decide⟩, .or⟩
    first.Alike Eq second ∧ (first.statement .standard).sql = (second.statement .standard).sql ∧
      (first.statement .standard).params.length = 4 := by
  intro first second
  have alike : first.Alike Eq second :=
    .update ⟨rfl, rfl⟩ (.cons ⟨rfl, rfl⟩ (.cons ⟨rfl, rfl⟩ .nil))
      (.cons ⟨⟨rfl, rfl⟩, .one rfl⟩ (.cons ⟨⟨rfl, rfl⟩, .many rfl⟩ .nil)) rfl
  obtain ⟨text, -⟩ := Command.sql_eq_of_alike alike .standard
  exact ⟨alike, text, by decide⟩

end Sql

end RecordMapper
