import RecordMapper.Proofs.Sql.Command
import RecordMapper.Proofs.Sql.Token
/-! # The tokens of a condition

The tokens of a test, of a clause and of a whole condition, so that nothing that follows has to go
back to their texts. -/
set_option autoImplicit false
namespace RecordMapper.Sql

open RecordMapper.Filter (Connective Operator)
open Fragment (tokens)

def operatorTokens : Operator → List Token
  | .like => [.word "LIKE"]
  | .notLike => [.word "NOT", .word "LIKE"]
  | operator => [.sign operator.sql]

theorem textTokens_operator (operator : Operator) :
    textTokens (" " ++ operator.sql ++ " ") = operatorTokens operator := by
  cases operator <;> decide

theorem textTokens_lowered (operator : Operator) :
    textTokens (") " ++ operator.sql ++ " LOWER(") =
      .sign ")" :: operatorTokens operator ++ [.word "LOWER", .sign "("] := by
  cases operator <;> decide

theorem textTokens_separator (connective : Connective) :
    textTokens connective.separator = [.word connective.sql] := by
  cases connective <;> decide

/-! ## Tests -/

def listTokens (params : List Param) : List Token :=
  List.intercalate [.sign ","] (params.map fun param => [.value param])

def Test.tokens (column : List Token) : Test → List Token
  | .isNull negate =>
    column ++ if negate then [.word "IS", .word "NOT", .word "NULL"] else [.word "IS", .word "NULL"]
  | .isAmong negate params =>
    column ++ ((if negate then [.word "NOT", .word "IN"] else [.word "IN"]) ++
      .sign "(" :: (listTokens params ++ [.sign ")"]))
  | .compare operator lowered param =>
    if lowered then
      .word "LOWER" :: .sign "(" :: (column ++ .sign ")" ::
        (operatorTokens operator ++ [.word "LOWER", .sign "(", .value param, .sign ")"]))
    else column ++ (operatorTokens operator ++ [.value param])

theorem tokens_params (params : List Param) :
    tokens (Fragment.joined "," (params.map fun param => [.bind param])) = listTokens params := by
  rw [Fragment.tokens_joined, List.map_map, textTokens_comma]
  rfl

theorem Test.tokens_fragments (column : List Fragment) (test : Test) :
    Fragment.tokens (test.fragments column) = test.tokens (Fragment.tokens column) := by
  cases test with
  | isNull negate =>
      have words : ∀ negate : Bool, textTokens (if negate then " is NOT NULL" else " is NULL") =
          if negate then [.word "IS", .word "NOT", .word "NULL"] else [.word "IS", .word "NULL"] := by
        decide
      simp only [Test.fragments, Test.tokens, Fragment.tokens_append, Fragment.tokens_text,
        Fragment.tokens_nil, words, List.append_nil]
  | isAmong negate params =>
      have words : ∀ negate : Bool, textTokens (if negate then " not in (" else " in (") =
          (if negate then [.word "NOT", .word "IN"] else [.word "IN"]) ++ [.sign "("] := by
        decide
      simp only [Test.fragments, Test.tokens, Fragment.tokens_append, Fragment.tokens_text,
        Fragment.tokens_nil, words, textTokens_close, tokens_params, List.append_nil,
        List.append_assoc, List.cons_append, List.nil_append]
  | compare operator lowered param =>
      have lower : textTokens "LOWER(" = [.word "LOWER", .sign "("] := by decide
      cases lowered with
      | false =>
          simp only [Test.fragments, Test.tokens, Bool.false_eq_true, if_false,
            Fragment.tokens_append, Fragment.tokens_text, Fragment.tokens_bind, Fragment.tokens_nil,
            textTokens_operator]
      | true =>
          simp only [Test.fragments, Test.tokens, if_true, Fragment.tokens_append,
            Fragment.tokens_text, Fragment.tokens_bind, Fragment.tokens_nil, textTokens_lowered,
            textTokens_close, lower, List.append_assoc, List.cons_append, List.nil_append,
            List.append_nil]

/-! ## Clauses -/

def Clause.inner (clause : Clause) : List Token :=
  if clause.tests.isEmpty then [.word "1", .sign "=", .word (if clause.vacuous then "1" else "0")]
  else List.intercalate [.word clause.join.sql]
    (clause.tests.map (Test.tokens (Fragment.tokens (Fragment.column clause.table clause.column))))

theorem Clause.tokens_body (clause : Clause) : Fragment.tokens clause.body = clause.inner := by
  have constant : ∀ vacuous : Bool, Fragment.tokens [.text (if vacuous then "1 = 1" else "1 = 0")] =
      [.word "1", .sign "=", .word (if vacuous then "1" else "0")] := by decide
  unfold Clause.body Clause.inner
  split
  · exact constant clause.vacuous
  · rw [Fragment.tokens_joined, textTokens_separator, List.map_map]
    exact congrArg (List.intercalate [.word clause.join.sql])
      (congrArg (List.map · clause.tests) (funext fun test => test.tokens_fragments _))

theorem Clause.tokens_fragments (clause : Clause) :
    Fragment.tokens clause.fragments = .sign "(" :: (clause.inner ++ [.sign ")"]) := by
  rw [clause.fragments_eq_body, Fragment.tokens_text, Fragment.tokens_append, clause.tokens_body,
    textTokens_open, Fragment.tokens_text, textTokens_close]
  rfl

theorem tokens_where (w : Where) : tokens w.fragments =
    List.intercalate [.word w.compose.sql]
      (w.clauses.map fun clause => .sign "(" :: (clause.inner ++ [.sign ")"])) := by
  rw [Where.fragments, Fragment.tokens_joined, textTokens_separator, List.map_map]
  exact congrArg (List.intercalate [.word w.compose.sql])
    (congrArg (List.map · w.clauses) (funext Clause.tokens_fragments))

theorem tokens_suffix (w : Where) (some : w.clauses.isEmpty = false) :
    tokens w.suffix = .word "WHERE" :: tokens w.fragments := by
  have keyword : textTokens " WHERE " = [.word "WHERE"] := by decide
  rw [Where.suffix, if_neg (by simp [some]), Fragment.tokens_text, keyword]
  rfl

end RecordMapper.Sql
