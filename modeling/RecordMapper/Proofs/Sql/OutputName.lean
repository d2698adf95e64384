import RecordMapper.Proofs.Sql.Arrow
import RecordMapper.Proofs.Sql.Token
/-! # Output names

The text of an entry of the select list is that of its column, counted or not (`expressionText`), with
the output name behind `AS` if there is one (`SelectField.sql_fragments`).  An entry that asks for a
name shows it (`HasOutputName`) unless the name is that of the column itself and the column is counted
or stands for all columns (`SelectField.output_name_honoured_iff`). -/
set_option autoImplicit false
namespace RecordMapper.Sql

/-! ## Texts of columns -/

namespace Dialect

def qualifier (dialect : Dialect) (table : String) : String :=
  if table.isEmpty then "" else dialect.quoted table ++ "."

theorem toList_quoted (dialect : Dialect) (name : String) : (dialect.quoted name).toList =
    dialect.quote :: doubled dialect.quote name.toList ++ [dialect.quote] :=
  String.toList_ofList

theorem quoted_injective (dialect : Dialect) {name other : String}
    (same : dialect.quoted name = dialect.quoted other) : name = other := by
  have read : ∀ name, scanFrom dialect.quote .outside (dialect.quoted name).toList =
      some [.name name] := by
    intro name
    have whole := scanFrom_quoted dialect name [] (by simp)
    rwa [List.append_nil] at whole
  have both := (read name).symm.trans ((congrArg _ (congrArg String.toList same)).trans (read other))
  exact Lexeme.name.inj (List.cons.inj (Option.some.inj both)).1

theorem last_qualifier (dialect : Dialect) (table : String) :
    ∀ c ∈ (dialect.qualifier table).toList.getLast?, c = '.' := by
  intro c member
  unfold qualifier at member
  split at member
  · cases member
  · rw [String.toList_append, List.getLast?_append] at member
    exact (Option.some.inj member).symm

def expressionText (dialect : Dialect) (table column : String) (count : Bool) : String :=
  let text := dialect.qualifier table ++ if column = "*" then "*" else dialect.quoted column
  if count then "COUNT(" ++ text ++ ")" else text

end Dialect

theorem Fragment.sql_column (dialect : Dialect) (n : Nat) (table name : String) :
    sql dialect n (column table name) = dialect.qualifier table ++ dialect.quoted name := by
  unfold column Dialect.qualifier
  split
  · simp [sql]
  · simp [sql, String.append_assoc]

open Fragment (sql sql_append)

namespace SelectField

theorem sql_expression (dialect : Dialect) (n : Nat) (field : SelectField) (table : String) :
    sql dialect n (field.expression table) =
      dialect.expressionText table field.column field.count := by
  have column : sql dialect n (if field.column = "*"
      then if table.isEmpty then [.text "*"] else [.name table, .text ".*"]
      else Fragment.column table field.column) = dialect.qualifier table ++
        if field.column = "*" then "*" else dialect.quoted field.column := by
    split
    · unfold Dialect.qualifier
      split
      · rfl
      · simp [sql, String.append_assoc]
    · exact Fragment.sql_column dialect n table field.column
  unfold expression Dialect.expressionText
  dsimp only
  split
  · rw [sql_append, sql_append]
    show "COUNT(" ++ "" ++ _ ++ (")" ++ "") = _
    rw [String.append_empty, String.append_empty]
    exact congrArg ("COUNT(" ++ · ++ ")") column
  · exact column

theorem sql_fragments (dialect : Dialect) (field : SelectField) (table : String) :
    sql dialect 0 (field.fragments table) =
      dialect.expressionText table field.column field.count ++
        field.outputName.elim "" fun output => " AS " ++ dialect.quoted output := by
  unfold fragments
  cases field.outputName with
  | none => rw [Option.elim_none, String.append_empty, sql_expression]
  | some output =>
      rw [sql_append, sql_expression, Option.elim_some]
      simp [sql]

end SelectField

/-- The text of a column as it is, which nothing else has. -/
theorem Dialect.expressionText_eq_iff (dialect : Dialect) (table : String) {column other : String}
    {count : Bool} :
    dialect.expressionText table column count = dialect.qualifier table ++ dialect.quoted other ↔
      count = false ∧ column = other ∧ other ≠ "*" := by
  constructor
  · intro same
    cases count with
    | true =>
        have first : (dialect.qualifier table ++ dialect.quoted other).toList.head? =
            some dialect.quote := by
          unfold Dialect.qualifier
          split
          · simp [Dialect.toList_quoted]
          · simp [Dialect.toList_quoted]
        have last : (dialect.qualifier table ++ dialect.quoted other).toList.getLast? =
            some dialect.quote := by
          rw [String.toList_append, Dialect.toList_quoted, ← List.append_assoc, List.getLast?_concat]
        rw [← same] at first last
        obtain ⟨text, shape⟩ : ∃ text,
            dialect.expressionText table column true = "COUNT(" ++ text ++ ")" := ⟨_, rfl⟩
        rw [shape, String.toList_append, String.toList_append] at first last
        rw [List.getLast?_append] at last
        have letter : 'C' = dialect.quote := Option.some.inj first
        have bracket : ')' = dialect.quote := Option.some.inj last
        exact absurd (letter.trans bracket.symm) (by decide)
    | false =>
        have text : (if column = "*" then "*" else dialect.quoted column) = dialect.quoted other :=
          (String.append_right_inj _).mp same
        by_cases all : column = "*"
        · have lengths := congrArg (fun text => text.toList.length) text
          simp [all, Dialect.toList_quoted] at lengths
        · rw [if_neg all] at text
          obtain rfl := dialect.quoted_injective text
          exact ⟨rfl, rfl, all⟩
  · rintro ⟨rfl, rfl, single⟩
    rw [Dialect.expressionText, if_neg Bool.false_ne_true, if_neg single]

/-! ## Names of expressions -/

/-- What is selected is shown under the name behind `AS`, and a column by itself under its own. -/
def HasOutputName (dialect : Dialect) (text name : String) : Prop :=
  (∃ expression, text = expression ++ " AS " ++ dialect.quoted name) ∨
    ∃ table, text = dialect.qualifier table ++ dialect.quoted name

theorem HasOutputName.ends {dialect : Dialect} {text name : String}
    (shown : HasOutputName dialect text name) :
    ∃ front, text.toList = front ++ (dialect.quoted name).toList ∧
      ∀ c ∈ front.getLast?, c = ' ' ∨ c = '.' := by
  rcases shown with ⟨expression, rfl⟩ | ⟨table, rfl⟩
  · refine ⟨(expression ++ " AS ").toList, String.toList_append, fun c member => .inl ?_⟩
    rw [String.toList_append, List.getLast?_append] at member
    exact (Option.some.inj member).symm
  · exact ⟨(dialect.qualifier table).toList, String.toList_append,
      fun c member => .inr (dialect.last_qualifier table c member)⟩

/-- The name of a counted column does not stand at the end. -/
theorem not_hasOutputName_counted (dialect : Dialect) (table : String) {column : String}
    (single : column ≠ "*") :
    ¬ HasOutputName dialect (dialect.expressionText table column true) column := by
  intro shown
  obtain ⟨front, text, last⟩ := shown.ends
  have shape : dialect.expressionText table column true =
      "COUNT(" ++ (dialect.qualifier table ++ dialect.quoted column) ++ ")" := by
    rw [Dialect.expressionText, if_pos rfl, if_neg single]
  simp only [shape, String.toList_append, Dialect.toList_quoted, ← List.append_assoc] at text
  obtain ⟨inner, closing⟩ := List.append_inj' text rfl
  have behind : ("COUNT(".toList ++ (dialect.qualifier table).toList ++ [dialect.quote]) ++
      (Dialect.doubled dialect.quote column.toList ++ [dialect.quote]) =
      front ++ (dialect.quote :: Dialect.doubled dialect.quote column.toList) := by
    simpa using inner
  obtain ⟨rfl, -⟩ := List.append_inj' behind (by simp)
  have bracket : dialect.quote = ')' := (List.cons.inj closing).1.symm
  rcases last dialect.quote List.getLast?_concat with blank | point
  · exact absurd (bracket.symm.trans blank) (by decide)
  · exact absurd (bracket.symm.trans point) (by decide)

theorem not_hasOutputName_star (dialect : Dialect) (table : String) (count : Bool) :
    ¬ HasOutputName dialect (dialect.expressionText table "*" count) "*" := by
  intro shown
  obtain ⟨front, text, last⟩ := shown.ends
  have star : Dialect.doubled dialect.quote "*".toList =
      if '*' = dialect.quote then [dialect.quote, dialect.quote] else ['*'] := rfl
  cases count with
  | false =>
      have shape : dialect.expressionText table "*" false = dialect.qualifier table ++ "*" := rfl
      rw [shape, String.toList_append, Dialect.toList_quoted, ← List.append_assoc] at text
      obtain ⟨inner, same⟩ := List.append_inj' text rfl
      have quote : '*' = dialect.quote := (List.cons.inj same).1
      have point := dialect.last_qualifier table dialect.quote
        (by rw [inner, star, if_pos quote]; simp)
      exact absurd (quote.trans point) (by decide)
  | true =>
      have shape : dialect.expressionText table "*" true =
          "COUNT(" ++ (dialect.qualifier table ++ "*") ++ ")" := rfl
      simp only [shape, String.toList_append, Dialect.toList_quoted, ← List.append_assoc] at text
      obtain ⟨inner, closing⟩ := List.append_inj' text rfl
      have bracket : ')' = dialect.quote := (List.cons.inj closing).1
      have other : ¬ '*' = dialect.quote := by
        rw [← bracket]
        decide
      rw [star, if_neg other] at inner
      have behind : "COUNT(".toList ++ (dialect.qualifier table).toList ++ ['*'] =
          front ++ [dialect.quote] ++ ['*'] := by
        simpa using inner
      obtain ⟨before, -⟩ := List.append_inj' behind rfl
      have ends := congrArg List.getLast? before
      rw [List.getLast?_concat, List.getLast?_append, ← bracket] at ends
      cases none : (dialect.qualifier table).toList.getLast? with
      | none =>
          rw [none] at ends
          exact absurd ends (by decide)
      | some c =>
          obtain rfl := dialect.last_qualifier table c none
          rw [none] at ends
          exact absurd ends (by decide)

namespace SelectField

/-- The entry of a column, counted or not, that asks for a name shows the column under that name,
unless the name is that of the column itself and the column is counted or stands for all columns: no
`AS` is written for the own name of a column, whatever is made of the column. -/
theorem output_name_honoured_iff {column name : String} (verbatim : Verbatim column)
    (trimmed : Text.trim name = name) (count : Bool) (dialect : Dialect) (table : String) :
    let text := sql dialect 0 ((ofText (entryText count column name)).fragments table)
    text = dialect.expressionText table column count ++
        (if name = column then "" else " AS " ++ dialect.quoted name) ∧
      (HasOutputName dialect text name ↔ (name = column → count = false ∧ column ≠ "*")) := by
  intro text
  have shape : text = dialect.expressionText table column count ++
      (if name = column then "" else " AS " ++ dialect.quoted name) := by
    show sql dialect 0 _ = _
    rw [ofText_entryText verbatim trimmed, sql_fragments]
    split
    · rfl
    · rfl
  refine ⟨shape, ?_⟩
  by_cases same : name = column
  · subst same
    rw [if_pos rfl, String.append_empty] at shape
    rw [shape]
    by_cases all : name = "*"
    · subst all
      exact iff_of_false (not_hasOutputName_star dialect table count) fun plain => (plain rfl).2 rfl
    · cases count with
      | true =>
          exact iff_of_false (not_hasOutputName_counted dialect table all)
            fun plain => Bool.noConfusion (plain rfl).1
      | false =>
          refine iff_of_true (.inr ⟨table, ?_⟩) fun _ => ⟨rfl, all⟩
          rw [Dialect.expressionText, if_neg Bool.false_ne_true, if_neg all]
  · rw [if_neg same, ← String.append_assoc] at shape
    exact iff_of_true (.inl ⟨_, shape⟩) fun equal => absurd equal same

theorem output_name_honoured_total :
    Verbatim "id" ∧ Text.trim "id total" = "id total" ∧
      sql .standard 0 ((ofText "#id -> id total").fragments "users") =
        "COUNT(`users`.`id`) AS `id total`" ∧
      HasOutputName .standard
        (sql .standard 0 ((ofText "#id -> id total").fragments "users")) "id total" := by
  have verbatim : Verbatim "id" := ⟨by decide, by decide, by decide⟩
  have trimmed : Text.trim "id total" = "id total" := by decide
  obtain ⟨text, named⟩ := output_name_honoured_iff verbatim trimmed true .standard "users"
  exact ⟨verbatim, trimmed, text, named.mpr fun same => absurd same (by decide)⟩

/-- A count that is to be shown under the name of its column is shown without a name. -/
theorem counted_column_loses_name :
    IsPlainName "id" ∧
      sql .standard 0 ((ofText "#id -> id").fragments "users") =
        "COUNT(`users`.`id`)" ∧
      ¬ HasOutputName .standard
        (sql .standard 0 ((ofText "#id -> id").fragments "users")) "id" := by
  have text : sql .standard 0 ((ofText "#id -> id").fragments "users") =
      Dialect.standard.expressionText "users" "id" true := by decide
  refine ⟨⟨by decide, by decide, by decide, by decide, by decide⟩, text, ?_⟩
  rw [text]
  exact not_hasOutputName_counted .standard "users" (by decide)

end SelectField

end RecordMapper.Sql
