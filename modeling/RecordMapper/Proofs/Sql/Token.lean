import RecordMapper.Proofs.Decimal.Digits
import RecordMapper.Proofs.Sql.Spacing
/-! # Statements as tokens

`Statement.tokens?` reads a statement the way a backend does: identifiers, words, signs, and each
placeholder replaced by its parameter.  `tokens?_statement`: the tokens of a spaced list of pieces are
those of the pieces one after another. -/
set_option autoImplicit false
namespace RecordMapper.Sql

/-- A token.  Words are in capitals, as keywords have no case. -/
inductive Token
  | name (identifier : String)
  | word (text : String)
  | sign (text : String)
  /-- A placeholder, with its number if it has one. -/
  | placeholder (number : Option Nat)
  /-- A parameter in the place of its placeholder. -/
  | value (param : Param)
deriving DecidableEq

/-- The characters of a word, an operator or a numbered placeholder that is not finished, last one
first. -/
inductive Run
  | nothing
  | word (read : List Char)
  | operator (read : List Char)
  | number (read : List Char)

namespace Run

def tokens : Run → List Token
  | .nothing => []
  | .word read => [.word (String.ofList (read.reverse.map Char.toUpper))]
  | .operator read => [.sign (String.ofList read.reverse)]
  | .number read => [.placeholder (some (Decimal.ofDigits read.reverse))]

def single (c : Char) : List Token :=
  if c = ' ' then [] else if c = '?' then [.placeholder none] else [.sign (String.ofList [c])]

/-- What a further character finishes, and the run that it leaves. -/
def push (run : Run) (c : Char) : List Token × Run :=
  if c = '$' then (run.tokens, .number [])
  else if c.isAlphanum then
    match run with
    | .word read => ([], .word (c :: read))
    | .number read =>
      if c.isDigit then ([], .number (c :: read)) else (run.tokens, .word [c])
    | _ => (run.tokens, .word [c])
  else if isOperator c then
    match run with
    | .operator read => ([], .operator (c :: read))
    | _ => (run.tokens, .operator [c])
  else (run.tokens ++ single c, .nothing)

end Run

def tokensFrom (run : Run) : List Lexeme → List Token
  | [] => run.tokens
  | .name identifier :: rest => run.tokens ++ .name identifier :: tokensFrom .nothing rest
  | .plain c :: rest => (run.push c).1 ++ tokensFrom (run.push c).2 rest

/-- Puts parameters in the place of placeholders, `n` of which have been passed. -/
def fill (params : List Param) (n : Nat) : List Token → Option (List Token)
  | [] => some []
  | .placeholder number :: rest =>
    match number.getD (n + 1) with
    | 0 => none
    | k + 1 => do
      let param ← params[k]?
      let others ← fill params (n + 1) rest
      pure (.value param :: others)
  | token :: rest => (fill params n rest).map (token :: ·)

/-- The tokens of a statement, if its identifiers are closed and its placeholders have
parameters. -/
def Statement.tokens? (statement : Statement) (quote : Char) : Option (List Token) := do
  let found ← scan quote statement.sql
  fill statement.params 0 (tokensFrom .nothing found)

/-! ## Where texts can be cut -/

def Breaks : List Lexeme → Prop
  | [] => True
  | .name _ :: _ => True
  | .plain c :: _ => isLoose c = true

theorem Run.push_loose (run : Run) (c : Char) (loose : isLoose c = true) :
    run.push c = (run.tokens ++ single c, .nothing) := by
  simp only [isLoose, Bool.not_eq_true', Bool.or_eq_false_iff, beq_eq_false_iff_ne] at loose
  obtain ⟨⟨notAlphanum, notDollar⟩, notOperator⟩ := loose
  simp [push, notDollar, notAlphanum, notOperator]

theorem tokensFrom_breaks (run : Run) (back : List Lexeme) (breaks : Breaks back) :
    tokensFrom run back = run.tokens ++ tokensFrom .nothing back := by
  cases back with
  | nil => simp [tokensFrom, Run.tokens]
  | cons lexeme rest =>
      cases lexeme with
      | name identifier => simp [tokensFrom, Run.tokens]
      | plain c =>
          simp [tokensFrom, run.push_loose c breaks, Run.push_loose .nothing c breaks, Run.tokens]

theorem tokensFrom_append (run : Run) (front back : List Lexeme) (breaks : Breaks back) :
    tokensFrom run (front ++ back) = tokensFrom run front ++ tokensFrom .nothing back := by
  induction front generalizing run with
  | nil => exact tokensFrom_breaks run back breaks
  | cons lexeme rest ih =>
      cases lexeme with
      | name identifier => simp [tokensFrom, ih]
      | plain c => simp [tokensFrom, ih]

/-- Behind a loose character the text is cut as well. -/
theorem tokensFrom_append_loose (run : Run) (front back : List Lexeme) (c : Char)
    (loose : isLoose c = true) :
    tokensFrom run (front ++ [.plain c] ++ back) =
      tokensFrom run (front ++ [.plain c]) ++ tokensFrom .nothing back := by
  have one := tokensFrom_append run front [.plain c] loose
  have all := tokensFrom_append run front (.plain c :: back) loose
  have step : tokensFrom .nothing (.plain c :: back) =
      tokensFrom .nothing [.plain c] ++ tokensFrom .nothing back := by
    simp [tokensFrom, Run.push_loose .nothing c loose, Run.tokens]
  rw [List.append_assoc, List.singleton_append, all, step, one, List.append_assoc]

/-! ## The tokens of pieces -/

def Token.isPlaceholder : Token → Bool
  | .placeholder _ => true
  | _ => false

def Run.isNumber : Run → Bool
  | .number _ => true
  | _ => false

theorem Run.tokens_free (run : Run) (free : run.isNumber = false) :
    ∀ token ∈ run.tokens, token.isPlaceholder = false := by
  intro token member
  cases run with
  | nothing => simp [tokens] at member
  | word read =>
      obtain rfl := List.mem_singleton.mp member
      rfl
  | operator read =>
      obtain rfl := List.mem_singleton.mp member
      rfl
  | number read => simp [isNumber] at free

theorem Run.push_free (run : Run) (c : Char) (free : run.isNumber = false) (noQuestion : c ≠ '?')
    (noDollar : c ≠ '$') :
    (∀ token ∈ (run.push c).1, token.isPlaceholder = false) ∧
      (run.push c).2.isNumber = false := by
  have rest := run.tokens_free free
  have alone : ∀ token ∈ single c, token.isPlaceholder = false := by
    intro token member
    unfold single at member
    split at member
    · simp at member
    · obtain rfl := List.mem_singleton.mp member
      rfl
  unfold push
  rw [if_neg noDollar]
  split
  · cases run with
    | nothing => exact ⟨rest, rfl⟩
    | word read => exact ⟨by simp, rfl⟩
    | operator read => exact ⟨rest, rfl⟩
    | number read => simp [isNumber] at free
  · split
    · cases run with
      | nothing => exact ⟨rest, rfl⟩
      | word read => exact ⟨rest, rfl⟩
      | operator read => exact ⟨by simp, rfl⟩
      | number read => simp [isNumber] at free
    · refine ⟨fun token member => ?_, rfl⟩
      rcases List.mem_append.mp member with found | found
      · exact rest token found
      · exact alone token found

theorem tokensFrom_free (run : Run) (cs : List Char) (free : run.isNumber = false)
    (marks : ∀ c ∈ cs, c ≠ '?' ∧ c ≠ '$') :
    ∀ token ∈ tokensFrom run (cs.map .plain), token.isPlaceholder = false := by
  induction cs generalizing run with
  | nil => exact run.tokens_free free
  | cons c cs ih =>
      obtain ⟨noQuestion, noDollar⟩ := marks c (List.mem_cons_self ..)
      obtain ⟨done, open'⟩ := run.push_free c free noQuestion noDollar
      intro token member
      rw [List.map_cons, tokensFrom, List.mem_append] at member
      rcases member with found | found
      · exact done token found
      · exact ih _ open' (fun d there => marks d (List.mem_cons_of_mem c there)) token found

theorem fill_free (params : List Param) (n : Nat) (front back : List Token)
    (free : ∀ token ∈ front, token.isPlaceholder = false) :
    fill params n (front ++ back) = (fill params n back).map (front ++ ·) := by
  induction front with
  | nil => simp
  | cons token rest ih =>
      have here := free token (List.mem_cons_self ..)
      have there := ih fun other member => free other (List.mem_cons_of_mem token member)
      cases token with
      | placeholder number => simp [Token.isPlaceholder] at here
      | name identifier => simp [fill, there, Function.comp_def]
      | word text => simp [fill, there, Function.comp_def]
      | sign text => simp [fill, there, Function.comp_def]
      | value param => simp [fill, there, Function.comp_def]

def textTokens (s : String) : List Token := tokensFrom .nothing (s.toList.map .plain)

@[simp] theorem textTokens_point : textTokens "." = [.sign "."] := by decide

@[simp] theorem textTokens_star : textTokens "*" = [.sign "*"] := by decide

@[simp] theorem textTokens_pointStar : textTokens ".*" = [.sign ".", .sign "*"] := by decide

@[simp] theorem textTokens_comma : textTokens "," = [.sign ","] := by decide

@[simp] theorem textTokens_commaBlank : textTokens ", " = [.sign ","] := by decide

@[simp] theorem textTokens_open : textTokens "(" = [.sign "("] := by decide

@[simp] theorem textTokens_close : textTokens ")" = [.sign ")"] := by decide

@[simp] theorem textTokens_select : textTokens "SELECT " = [.word "SELECT"] := by decide

@[simp] theorem textTokens_from : textTokens " FROM " = [.word "FROM"] := by decide

@[simp] theorem textTokens_as : textTokens " AS " = [.word "AS"] := by decide

@[simp] theorem textTokens_groupBy : textTokens " GROUP BY " = [.word "GROUP", .word "BY"] := by
  decide

@[simp] theorem textTokens_insertInto :
    textTokens "INSERT INTO " = [.word "INSERT", .word "INTO"] := by
  decide

namespace Fragment

def tokens : List Fragment → List Token
  | [] => []
  | .text s :: rest => textTokens s ++ tokens rest
  | .name identifier :: rest => .name identifier :: tokens rest
  | .bind param :: rest => .value param :: tokens rest

@[simp] theorem tokens_nil : tokens [] = [] := rfl

@[simp] theorem tokens_text (s : String) (rest : List Fragment) :
    tokens (.text s :: rest) = textTokens s ++ tokens rest := rfl

@[simp] theorem tokens_name (identifier : String) (rest : List Fragment) :
    tokens (.name identifier :: rest) = .name identifier :: tokens rest := rfl

@[simp] theorem tokens_bind (param : Param) (rest : List Fragment) :
    tokens (.bind param :: rest) = .value param :: tokens rest := rfl

@[simp] theorem tokens_append (front back : List Fragment) :
    tokens (front ++ back) = tokens front ++ tokens back := by
  induction front with
  | nil => rfl
  | cons piece rest ih => cases piece <;> simp [ih]

theorem tokens_joined (separator : String) (parts : List (List Fragment)) :
    tokens (joined separator parts) = List.intercalate (textTokens separator) (parts.map tokens) := by
  induction parts with
  | nil => rfl
  | cons part rest ih =>
      cases rest with
      | nil => simp [joined]
      | cons next rest =>
          rw [joined_cons_cons]
          simp [ih, List.intercalate]

theorem breaks_lexemes (dialect : Dialect) (n : Nat) (pieces : List Fragment)
    (begins : ∀ piece ∈ pieces.head?, piece.beginsLoose = true) :
    Breaks (lexemes dialect n pieces) := by
  cases pieces with
  | nil => exact trivial
  | cons piece rest =>
      have loose := begins piece rfl
      cases piece with
      | name identifier => exact trivial
      | bind param => simp [beginsLoose] at loose
      | text s =>
          obtain ⟨c, first, cLoose⟩ := (Option.any_eq_true _ _).mp loose
          obtain ⟨tail, shape⟩ := List.head?_eq_some_iff.mp first
          rw [lexemes, shape]
          exact cLoose

theorem tokensFrom_text (dialect : Dialect) (n : Nat) (s : String) (rest : List Fragment)
    (next : ∀ piece ∈ rest.head?, (Fragment.text s).Apart piece) :
    tokensFrom .nothing (s.toList.map .plain ++ lexemes dialect n rest) =
      textTokens s ++ tokensFrom .nothing (lexemes dialect n rest) := by
  by_cases begins : ∀ piece ∈ rest.head?, piece.beginsLoose = true
  · exact tokensFrom_append _ _ _ (breaks_lexemes dialect n rest begins)
  · have ends : (Fragment.text s).endsLoose = true := by
      simp only [Classical.not_forall] at begins
      obtain ⟨piece, member, tight⟩ := begins
      exact (next piece member).resolve_right tight
    obtain ⟨c, last, loose⟩ := (Option.any_eq_true _ _).mp ends
    obtain ⟨front, shape⟩ := List.getLast?_eq_some_iff.mp last
    rw [textTokens, shape, List.map_append]
    exact tokensFrom_append_loose _ _ _ c loose

theorem tokensFrom_digits (read digits : List Char) (all : ∀ c ∈ digits, c.isDigit = true) :
    tokensFrom (.number read) (digits.map .plain) =
      [.placeholder (some (Decimal.ofDigits (read.reverse ++ digits)))] := by
  induction digits generalizing read with
  | nil => simp [tokensFrom, Run.tokens]
  | cons c digits ih =>
      have digit : c.isDigit = true := all c (List.mem_cons_self ..)
      have notDollar : c ≠ '$' := by
        rintro rfl
        exact absurd digit (by decide)
      have push : (Run.number read).push c = ([], .number (c :: read)) := by
        simp [Run.push, notDollar, Char.isAlphanum, digit]
      rw [List.map_cons, tokensFrom, push,
        ih _ fun d member => all d (List.mem_cons_of_mem c member)]
      simp

def placeholderNumber (dialect : Dialect) (n : Nat) : Option Nat :=
  match dialect.placeholder with
  | .positional => none
  | .numbered => some (n + 1)

theorem tokensFrom_marker (dialect : Dialect) (n : Nat) :
    tokensFrom .nothing ((dialect.marker (n + 1)).toList.map .plain) =
      [.placeholder (placeholderNumber dialect n)] := by
  cases style : dialect.placeholder with
  | positional =>
      rw [marker_positional style, placeholderNumber, style]
      rfl
  | numbered =>
      have digits := tokensFrom_digits [] (Nat.toDigits 10 (n + 1))
        fun c member => Decimal.isDigit_of_mem_toDigits member
      rw [List.reverse_nil, List.nil_append, Decimal.ofDigits_toDigits] at digits
      rw [marker_numbered style, placeholderNumber, style, List.map_cons, tokensFrom]
      exact digits

theorem fill_lexemes (dialect : Dialect) (pieces : List Fragment) (spaced : Spaced pieces)
    (before : List Param) :
    fill (before ++ params pieces) before.length
        (tokensFrom .nothing (lexemes dialect before.length pieces)) = some (tokens pieces) := by
  induction pieces generalizing before with
  | nil => rfl
  | cons piece rest ih =>
      obtain ⟨tidy, next, spacedRest⟩ := spaced
      cases piece with
      | text s =>
          have free := tokensFrom_free .nothing s.toList rfl
            fun c member => ((isTidy_text tidy).2 c member).2
          have there := ih spacedRest before
          rw [lexemes, tokensFrom_text dialect _ s rest next, textTokens, fill_free _ _ _ _ free]
          simp only [params_text, there, Option.map_some, tokens_text]
          rfl
      | name identifier =>
          have there := ih spacedRest before
          simp [lexemes, tokensFrom, Run.tokens, fill, there]
      | bind param =>
          have begins : ∀ piece ∈ rest.head?, piece.beginsLoose = true :=
            fun piece member => (next piece member).resolve_left (by simp [endsLoose])
          have breaks := breaks_lexemes dialect (before.length + 1) rest begins
          have there := ih spacedRest (before ++ [param])
          rw [List.length_append, List.length_singleton, List.append_assoc,
            List.singleton_append] at there
          have number : (placeholderNumber dialect before.length).getD (before.length + 1) =
              before.length + 1 := by
            unfold placeholderNumber
            split <;> rfl
          have found : (before ++ param :: params rest)[before.length]? = some param := by simp
          rw [lexemes, tokensFrom_append _ _ _ breaks, tokensFrom_marker, params_bind]
          simp only [List.singleton_append, fill, number, found, there]
          rfl

theorem tokens?_statement {dialect : Dialect} (legible : dialect.Legible) (pieces : List Fragment)
    (spaced : Spaced pieces) :
    (statement dialect pieces).tokens? dialect.quote = some (tokens pieces) := by
  have filled := fill_lexemes dialect pieces spaced []
  rw [Statement.tokens?, scan_sql legible pieces spaced]
  exact filled

/-! ## The front of a statement -/

theorem tokens_free (pieces : List Fragment) (spaced : Spaced pieces) :
    ∀ token ∈ tokens pieces, token.isPlaceholder = false := by
  induction pieces with
  | nil => simp
  | cons piece rest ih =>
      obtain ⟨tidy, -, spacedRest⟩ := spaced
      have there := ih spacedRest
      cases piece with
      | text s =>
          have here := tokensFrom_free .nothing s.toList rfl
            fun c member => ((isTidy_text tidy).2 c member).2
          intro token member
          rcases List.mem_append.mp member with found | found
          · exact here token found
          · exact there token found
      | name identifier => simpa [Token.isPlaceholder] using there
      | bind param => simpa [Token.isPlaceholder] using there

theorem tokensFrom_lexemes (dialect : Dialect) (n : Nat) (pieces : List Fragment)
    (spaced : Spaced pieces) (fixed : params pieces = []) :
    tokensFrom .nothing (lexemes dialect n pieces) = tokens pieces := by
  induction pieces with
  | nil => rfl
  | cons piece rest ih =>
      obtain ⟨-, next, spacedRest⟩ := spaced
      cases piece with
      | text s => rw [lexemes, tokensFrom_text dialect n s rest next, ih spacedRest fixed, tokens_text]
      | name identifier =>
          rw [lexemes, tokensFrom, ih spacedRest fixed, tokens_name]
          rfl
      | bind param => simp at fixed

theorem sql_append (dialect : Dialect) (n : Nat) (front back : List Fragment) :
    sql dialect n (front ++ back) =
      sql dialect n front ++ sql dialect (n + (params front).length) back := by
  induction front generalizing n with
  | nil => exact String.empty_append.symm
  | cons piece rest ih =>
      cases piece with
      | text s => rw [List.cons_append, sql, sql, ih n, String.append_assoc, params_text]
      | name identifier => rw [List.cons_append, sql, sql, ih n, String.append_assoc, params_name]
      | bind param =>
          have passed : n + 1 + (params rest).length = n + (params rest).length + 1 := by omega
          rw [List.cons_append, sql, sql, ih (n + 1), String.append_assoc, params_bind,
            List.length_cons, passed]
          rfl

def Follows (rest : List Char) : Prop := ∀ c ∈ rest.head?, c = ' '

/-- However a statement goes on, its front is read piece by piece. -/
theorem tokens?_front {dialect : Dialect} (legible : dialect.Legible) (front back : List Fragment)
    (spaced : Spaced front) (fixed : params front = [])
    (follows : Follows (sql dialect 0 back).toList) {found : List Token}
    (read : (statement dialect (front ++ back)).tokens? dialect.quote = some found) :
    ∃ later, found = tokens front ++ later := by
  have blank : dialect.quote ≠ ' ' := (legible.ne_quote (by decide)).symm
  have differs : (sql dialect 0 back).toList.head? ≠ some dialect.quote :=
    fun same => blank (follows _ same)
  have text : (statement dialect (front ++ back)).sql =
      sql dialect 0 front ++ sql dialect 0 back := by
    rw [statement, sql_append, fixed]
    rfl
  rw [Statement.tokens?, scan, text, String.toList_append,
    scanFrom_sql legible 0 front spaced _ differs] at read
  cases behind : scanFrom dialect.quote .outside (sql dialect 0 back).toList with
  | none =>
      rw [behind] at read
      cases read
  | some rest =>
      have breaks : Breaks rest := by
        cases chars : (sql dialect 0 back).toList with
        | nil =>
            rw [chars] at behind
            obtain rfl : [] = rest := Option.some.inj behind
            trivial
        | cons c tail =>
            rw [chars] at behind follows
            obtain rfl : c = ' ' := follows c rfl
            rw [scanFrom, if_neg blank.symm] at behind
            obtain ⟨lexemes, -, rfl⟩ := Option.map_eq_some_iff.mp behind
            exact rfl
      rw [behind] at read
      replace read : fill _ 0 (tokensFrom .nothing (lexemes dialect 0 front ++ rest)) = some found :=
        read
      rw [tokensFrom_append _ _ _ breaks, tokensFrom_lexemes dialect 0 front spaced fixed,
        fill_free _ _ _ _ (tokens_free front spaced)] at read
      obtain ⟨later, -, shape⟩ := Option.map_eq_some_iff.mp read
      exact ⟨later, shape.symm⟩

end Fragment

end RecordMapper.Sql
