import RecordMapper.Proofs.Sql.ConditionTokens
/-! # Parts of a condition in parentheses

`Statement.groups?` reads the condition of a selection off its tokens and cuts out what stands in the
outermost parentheses.  The text of a clause between its parentheses is `Balanced`: reading it inside
parentheses leads back to the same depth.  `select_groups`: the parts of the condition of a selection
are its clauses, in order. -/
set_option autoImplicit false
namespace RecordMapper.Sql

open Calendar (Offset)
open RecordMapper.Filter (Connective Operator)
open Fragment (tokens)

/-- The outermost parts in parentheses; `inside` has been read of the part at hand. -/
def groupsFrom (depth : Nat) (inside : List Token) : List Token → List (List Token)
  | [] => []
  | token :: rest =>
    if token = .sign "(" then
      groupsFrom (depth + 1) (if depth = 0 then [] else inside ++ [token]) rest
    else if token = .sign ")" then
      if depth = 1 then inside :: groupsFrom 0 [] rest
      else groupsFrom (depth - 1) (inside ++ [token]) rest
    else groupsFrom depth (inside ++ [token]) rest

def conditionTokens (tokens : List Token) : List Token :=
  (tokens.dropWhile (· != .word "WHERE")).takeWhile (· != .word "GROUP")

/-- The parts of the condition of a selection, with their parameters. -/
def Statement.groups? (statement : Statement) (quote : Char) : Option (List (List Token)) :=
  (statement.tokens? quote).map fun tokens => groupsFrom 0 [] (conditionTokens tokens)

/-! ## Balanced tokens -/

def Balanced (tokens : List Token) : Prop :=
  ∀ depth inside rest,
    groupsFrom (depth + 1) inside (tokens ++ rest) = groupsFrom (depth + 1) (inside ++ tokens) rest

theorem balanced_nil : Balanced [] := by
  intro depth inside rest
  simp

theorem balanced_append (front back : List Token) (balancedFront : Balanced front)
    (balancedBack : Balanced back) : Balanced (front ++ back) := by
  intro depth inside rest
  rw [List.append_assoc, balancedFront, balancedBack, List.append_assoc]

theorem balanced_cons (token : Token) (tokens : List Token) (notOpen : token ≠ .sign "(")
    (notClose : token ≠ .sign ")") (balanced : Balanced tokens) : Balanced (token :: tokens) := by
  intro depth inside rest
  rw [List.cons_append, groupsFrom, if_neg notOpen, if_neg notClose, balanced, List.append_assoc]
  rfl

theorem balanced_enclosed (tokens : List Token) (balanced : Balanced tokens) :
    Balanced (.sign "(" :: (tokens ++ [.sign ")"])) := by
  intro depth inside rest
  rw [List.cons_append, groupsFrom, if_pos rfl, if_neg (Nat.succ_ne_zero depth),
    List.append_assoc, balanced, List.singleton_append, groupsFrom, if_neg (by decide), if_pos rfl,
    if_neg (by omega)]
  simp

theorem balanced_intercalate (separator : List Token) (parts : List (List Token))
    (balancedSeparator : Balanced separator) (balanced : ∀ part ∈ parts, Balanced part) :
    Balanced (List.intercalate separator parts) := by
  induction parts with
  | nil => exact balanced_nil
  | cons part rest ih =>
      have here := balanced part (List.mem_cons_self ..)
      have there := ih fun other member => balanced other (List.mem_cons_of_mem part member)
      cases rest with
      | nil => simpa using here
      | cons next rest =>
          rw [List.intercalate_cons_cons]
          exact balanced_append _ _ (balanced_append _ _ here balancedSeparator) there

theorem groupsFrom_enclosed (inside body rest : List Token) (balanced : Balanced body) :
    groupsFrom 0 inside (.sign "(" :: (body ++ .sign ")" :: rest)) = body :: groupsFrom 0 [] rest := by
  rw [groupsFrom, if_pos rfl, if_pos rfl, balanced, List.nil_append, groupsFrom, if_neg (by decide),
    if_pos rfl, if_pos rfl]

/-! ## The parts of a condition -/

theorem balanced_column (table name : String) : Balanced (tokens (Fragment.column table name)) := by
  unfold Fragment.column
  split
  · exact balanced_cons _ _ (by simp) (by simp) balanced_nil
  · rw [Fragment.tokens_name, Fragment.tokens_text, Fragment.tokens_name, textTokens_point]
    refine balanced_cons _ _ (by simp) (by simp) ?_
    refine balanced_cons _ _ (by decide) (by decide) ?_
    exact balanced_cons _ _ (by simp) (by simp) balanced_nil

theorem balanced_list (params : List Param) : Balanced (listTokens params) := by
  refine balanced_intercalate _ _ ?_ fun part member => ?_
  · exact balanced_cons _ _ (by decide) (by decide) balanced_nil
  · obtain ⟨param, -, rfl⟩ := List.mem_map.mp member
    exact balanced_cons _ _ (by simp) (by simp) balanced_nil

theorem balanced_free (tokens : List Token)
    (free : ∀ token ∈ tokens, token ≠ .sign "(" ∧ token ≠ .sign ")") : Balanced tokens := by
  induction tokens with
  | nil => exact balanced_nil
  | cons token rest ih =>
      obtain ⟨notOpen, notClose⟩ := free token (List.mem_cons_self ..)
      exact balanced_cons _ _ notOpen notClose
        (ih fun other member => free other (List.mem_cons_of_mem token member))

theorem balanced_operator (operator : Operator) : Balanced (operatorTokens operator) :=
  balanced_free _ (by cases operator <;> decide)

theorem balanced_test (table name : String) (test : Test) :
    Balanced (test.tokens (tokens (Fragment.column table name))) := by
  have column := balanced_column table name
  have value : ∀ param, Balanced [Token.value param] :=
    fun param => balanced_free _ (by simp)
  cases test with
  | isNull negate =>
      refine balanced_append _ _ column (balanced_free _ ?_)
      cases negate <;> decide
  | isAmong negate params =>
      have list := balanced_enclosed _ (balanced_list params)
      refine balanced_append _ _ column (balanced_append _ _ (balanced_free _ ?_) list)
      cases negate <;> decide
  | compare operator lowered param =>
      have sign := balanced_operator operator
      cases lowered with
      | false => exact balanced_append _ _ column (balanced_append _ _ sign (value param))
      | true =>
          have left := balanced_cons (.word "LOWER") _ (by decide) (by decide)
            (balanced_enclosed _ column)
          have right := balanced_cons (.word "LOWER") _ (by decide) (by decide)
            (balanced_enclosed _ (value param))
          have whole := balanced_append _ _ left (balanced_append _ _ sign right)
          simpa [Test.tokens] using whole

theorem balanced_inner (clause : Clause) : Balanced clause.inner := by
  unfold Clause.inner
  split
  · cases clause.vacuous <;> exact balanced_free _ (by decide)
  · refine balanced_intercalate _ _ ?_ fun part member => ?_
    · exact balanced_free _ (by simp)
    · obtain ⟨test, -, rfl⟩ := List.mem_map.mp member
      exact balanced_test _ _ test

theorem groups_where (w : Where) (inside : List Token) :
    groupsFrom 0 inside (tokens w.fragments) = w.clauses.map Clause.inner := by
  obtain ⟨compose, clauses⟩ := w
  rw [tokens_where]
  dsimp only
  induction clauses generalizing inside with
  | nil => rfl
  | cons clause rest ih =>
      have balanced := balanced_inner clause
      cases rest with
      | nil =>
          rw [List.map_singleton, List.intercalate_singleton]
          exact groupsFrom_enclosed inside clause.inner [] balanced
      | cons next rest =>
          have shape : List.intercalate [Token.word compose.sql]
              ((clause :: next :: rest).map fun c => .sign "(" :: (c.inner ++ [.sign ")"])) =
              .sign "(" :: (clause.inner ++ .sign ")" :: .word compose.sql ::
                List.intercalate [.word compose.sql]
                  ((next :: rest).map fun c => .sign "(" :: (c.inner ++ [.sign ")"]))) := by
            simp
          have word : ∀ behind, groupsFrom 0 [] (.word compose.sql :: behind) =
              groupsFrom 0 [.word compose.sql] behind := fun behind => rfl
          rw [shape, groupsFrom_enclosed _ _ _ balanced, word, ih]
          rfl

/-! ## The condition of a selection -/

theorem notMem_intercalate (token : Token) (separator : List Token) (parts : List (List Token))
    (between : token ∉ separator) (apart : ∀ part ∈ parts, token ∉ part) :
    token ∉ List.intercalate separator parts := by
  induction parts with
  | nil => simp
  | cons part rest ih =>
      have here := apart part (List.mem_cons_self ..)
      have there := ih fun other member => apart other (List.mem_cons_of_mem part member)
      cases rest with
      | nil => simpa using here
      | cons next rest =>
          rw [List.intercalate_cons_cons, List.mem_append, List.mem_append]
          rintro ((found | found) | found)
          · exact here found
          · exact between found
          · exact there found

theorem word_notMem_column (word table name : String) :
    Token.word word ∉ tokens (Fragment.column table name) := by
  unfold Fragment.column
  split
  · simp
  · simp

theorem where_notMem_expression (field : SelectField) (table : String) :
    Token.word "WHERE" ∉ tokens (field.expression table) := by
  have count : textTokens "COUNT(" = [.word "COUNT", .sign "("] := by decide
  have column : Token.word "WHERE" ∉ tokens (if field.column = "*"
      then if table.isEmpty then [.text "*"] else [.name table, .text ".*"]
      else Fragment.column table field.column) := by
    split
    · split
      · simp
      · simp
    · exact word_notMem_column _ _ _
  unfold SelectField.expression
  dsimp only
  split
  · simpa [count] using column
  · exact column

theorem where_notMem_field (field : SelectField) (table : String) :
    Token.word "WHERE" ∉ tokens (field.fragments table) := by
  have expression := where_notMem_expression field table
  unfold SelectField.fragments
  split
  · simpa using expression
  · exact expression

theorem where_notMem_fields (select : Select) :
    Token.word "WHERE" ∉ tokens select.fieldFragments := by
  unfold Select.fieldFragments
  split
  · simp
  · rw [Fragment.tokens_joined, textTokens_commaBlank]
    refine notMem_intercalate _ _ _ (by decide) fun part member => ?_
    obtain ⟨pieces, listed, rfl⟩ := List.mem_map.mp member
    obtain ⟨field, -, rfl⟩ := List.mem_map.mp listed
    exact where_notMem_field field select.table

theorem where_notMem_groups (select : Select) :
    Token.word "WHERE" ∉ tokens select.groupFragments := by
  unfold Select.groupFragments
  split
  · simp
  · have list : Token.word "WHERE" ∉ tokens (Fragment.joined ", " (select.groupBy.map fun entry =>
        (SelectField.ofText entry).expression select.table)) := by
      rw [Fragment.tokens_joined, textTokens_commaBlank]
      refine notMem_intercalate _ _ _ (by decide) fun part member => ?_
      obtain ⟨pieces, listed, rfl⟩ := List.mem_map.mp member
      obtain ⟨entry, -, rfl⟩ := List.mem_map.mp listed
      exact where_notMem_expression _ select.table
    simpa using list

theorem group_begins (select : Select) :
    (tokens select.groupFragments).takeWhile (· != .word "GROUP") = [] := by
  unfold Select.groupFragments
  split
  · rfl
  · rw [Fragment.tokens_text, textTokens_groupBy]
    rfl

theorem group_notMem_test (table name : String) (test : Test) :
    Token.word "GROUP" ∉ test.tokens (tokens (Fragment.column table name)) := by
  have column := word_notMem_column "GROUP" table name
  have sign : ∀ operator, Token.word "GROUP" ∉ operatorTokens operator := by
    intro operator
    cases operator <;> decide
  cases test with
  | isNull negate => cases negate <;> simpa [Test.tokens] using column
  | isAmong negate params =>
      have list : Token.word "GROUP" ∉ listTokens params := by
        refine notMem_intercalate _ _ _ (by decide) fun part member => ?_
        obtain ⟨param, -, rfl⟩ := List.mem_map.mp member
        simp
      cases negate <;> simpa [Test.tokens, list] using column
  | compare operator lowered param =>
      cases lowered <;> simpa [Test.tokens, sign operator] using column

theorem group_notMem_inner (clause : Clause) : Token.word "GROUP" ∉ clause.inner := by
  unfold Clause.inner
  split
  · cases clause.vacuous <;> decide
  · refine notMem_intercalate _ _ _ ?_ fun part member => ?_
    · cases clause.join <;> decide
    · obtain ⟨test, -, rfl⟩ := List.mem_map.mp member
      exact group_notMem_test _ _ test

theorem group_notMem_where (w : Where) : Token.word "GROUP" ∉ tokens w.fragments := by
  rw [tokens_where]
  refine notMem_intercalate _ _ _ ?_ fun part member => ?_
  · cases w.compose <;> decide
  · obtain ⟨clause, -, rfl⟩ := List.mem_map.mp member
    simpa using group_notMem_inner clause

/-- The condition stands between what has no condition in it and the grouping. -/
theorem conditionTokens_append (front condition back : List Token)
    (none : Token.word "WHERE" ∉ front) (inside : Token.word "GROUP" ∉ condition)
    (behind : back.takeWhile (· != .word "GROUP") = []) :
    conditionTokens (front ++ .word "WHERE" :: (condition ++ back)) =
      .word "WHERE" :: condition := by
  have skipped : ∀ token ∈ front, (token != .word "WHERE") = true := by
    intro token member
    simp only [bne_iff_ne]
    rintro rfl
    exact none member
  have kept : ∀ token ∈ condition, (token != .word "GROUP") = true := by
    intro token member
    simp only [bne_iff_ne]
    rintro rfl
    exact inside member
  rw [conditionTokens, List.dropWhile_append_of_pos skipped, List.dropWhile_cons_of_neg (by simp),
    List.takeWhile_cons_of_pos (by decide), List.takeWhile_append_of_pos kept, behind,
    List.append_nil]

theorem conditionTokens_listed (select : Select) (zone : Offset) :
    conditionTokens (tokens (select.listed zone)) =
      tokens (Where.ofConditions select.conditions select.table select.compose zone).suffix := by
  generalize shape : Where.ofConditions select.conditions select.table select.compose zone = w
  have front : Token.word "WHERE" ∉ .word "SELECT" ::
      (tokens select.fieldFragments ++ [.word "FROM", .name select.table]) := by
    simpa using where_notMem_fields select
  have whole : tokens (select.listed zone) =
      (.word "SELECT" :: (tokens select.fieldFragments ++ [.word "FROM", .name select.table])) ++
        (tokens w.suffix ++ tokens select.groupFragments) := by
    simp only [Select.listed, Select.front, shape, Fragment.tokens_append, Fragment.tokens_text,
      Fragment.tokens_name, textTokens_select, textTokens_from, List.append_assoc,
      List.cons_append, List.nil_append]
  rw [whole]
  cases none : w.clauses.isEmpty with
  | true =>
      have suffix : w.suffix = [] := by rw [Where.suffix, if_pos none]
      have absent : ∀ token ∈ (.word "SELECT" :: (tokens select.fieldFragments ++
          [.word "FROM", .name select.table])) ++ tokens select.groupFragments,
          (token != .word "WHERE") = true := by
        intro token member
        simp only [bne_iff_ne]
        rintro rfl
        exact (List.mem_append.mp member).elim front (where_notMem_groups select)
      rw [suffix, Fragment.tokens_nil, List.nil_append, conditionTokens,
        ← List.append_nil (_ ++ tokens select.groupFragments), List.dropWhile_append_of_pos absent]
      rfl
  | false =>
      rw [tokens_suffix w none]
      exact conditionTokens_append _ _ _ front (group_notMem_where w) (group_begins select)

theorem select_groups (select : Select) (dialect : Dialect) (legible : dialect.Legible) :
    (Fragment.statement dialect (select.listed dialect.zone)).groups? dialect.quote =
      some ((Where.ofConditions select.conditions select.table select.compose
        dialect.zone).clauses.map Clause.inner) := by
  have read : (Fragment.statement dialect (select.listed dialect.zone)).tokens? dialect.quote =
      some (tokens (select.listed dialect.zone)) :=
    Fragment.tokens?_statement legible _ (spaced_listed select dialect.zone)
  rw [Statement.groups?, read, Option.map_some, conditionTokens_listed]
  generalize Where.ofConditions select.conditions select.table select.compose dialect.zone = w
  cases none : w.clauses.isEmpty with
  | true =>
      rw [Where.suffix, if_pos none, List.isEmpty_iff.mp none]
      rfl
  | false =>
      have word : ∀ behind, groupsFrom 0 [] (.word "WHERE" :: behind) =
          groupsFrom 0 [.word "WHERE"] behind := fun behind => rfl
      rw [tokens_suffix w none, word, groups_where]

end RecordMapper.Sql
