import RecordMapper.Proofs.Filter.Truth
import RecordMapper.Proofs.Sql.Token
/-! # Conditions as a backend reads them

The grammar of conditions: comparisons, null tests and lists, joined by `OR` and, binding tighter,
by `AND`, with parentheses.  `Expression.read` reads tokens by it, and `Expression.truth` is the truth
of what was read.  `disjunction_reads`: parts that are read one by one are read together when one
connective stands between them. -/
set_option autoImplicit false
namespace RecordMapper.Sql

open RecordMapper.Filter (Column Connective Interpretation Operator Truth nullTruth)

inductive Scalar
  | ofColumn (column : Column)
  | value (param : Param)
  | lowered (inner : Scalar)
deriving DecidableEq

inductive Expression
  | numerals (m n : Nat)
  | isNull (negate : Bool) (scalar : Scalar)
  | among (negate : Bool) (scalar : Scalar) (params : List Param)
  | compare (operator : Operator) (left right : Scalar)
  | joined (connective : Connective) (left right : Expression)
deriving DecidableEq

section
variable {V : Type} (m : Interpretation V) (row : Column → Option V)

def Scalar.eval : Scalar → Option V
  | .ofColumn column => row column
  | .value param => some (m.value param)
  | .lowered inner => (Scalar.eval inner).map m.lowered

/-- The truth of an expression.  `IN` is equality with one of the list or another, and `NOT IN`
difference from one of it and the others. -/
def Expression.truth : Expression → Truth
  | .numerals k n => .ofBool (k == n)
  | .isNull negate scalar => nullTruth negate (scalar.eval m row)
  | .among false scalar params =>
    (params.map fun p => m.compare .eq (scalar.eval m row) (some (m.value p))).foldr Truth.or .no
  | .among true scalar params =>
    (params.map fun p => m.compare .ne (scalar.eval m row) (some (m.value p))).foldr Truth.and .yes
  | .compare operator left right => m.compare operator (left.eval m row) (right.eval m row)
  | .joined connective left right =>
    connective.apply (Expression.truth left) (Expression.truth right)

end

/-! ## The grammar -/

/-- What reads a part at the front of some tokens, and the tokens it leaves. -/
abbrev Parser (α : Type) := List Token → Option (α × List Token)

namespace Parser

def column : Parser Column
  | .name table :: .sign "." :: .name name :: rest => some (⟨some table, name⟩, rest)
  | .name name :: rest => some (⟨none, name⟩, rest)
  | _ => none

def atom : Parser Scalar
  | .value param :: rest => some (.value param, rest)
  | tokens => (column tokens).map fun (found, rest) => (.ofColumn found, rest)

def scalar : Parser Scalar
  | .word "LOWER" :: .sign "(" :: tokens =>
    match atom tokens with
    | some (inner, .sign ")" :: rest) => some (.lowered inner, rest)
    | _ => none
  | tokens => atom tokens

def params : Parser (List Param)
  | .value param :: .sign ")" :: rest => some ([param], rest)
  | .value param :: .sign "," :: rest =>
    (params rest).map fun (others, rest) => (param :: others, rest)
  | _ => none

def operator? (sign : String) : Option Operator :=
  [Operator.eq, .ne, .gt, .gte, .lt, .lte].find? fun operator => operator.sql == sign

def compared (operator : Operator) (left : Scalar) : Parser Expression := fun tokens =>
  (scalar tokens).map fun (right, rest) => (.compare operator left right, rest)

def said (left : Scalar) : Parser Expression
  | .word "IS" :: .word "NULL" :: rest => some (.isNull false left, rest)
  | .word "IS" :: .word "NOT" :: .word "NULL" :: rest => some (.isNull true left, rest)
  | .word "IN" :: .sign "(" :: rest =>
    (params rest).map fun (found, rest) => (.among false left found, rest)
  | .word "NOT" :: .word "IN" :: .sign "(" :: rest =>
    (params rest).map fun (found, rest) => (.among true left found, rest)
  | .word "LIKE" :: rest => compared .like left rest
  | .word "NOT" :: .word "LIKE" :: rest => compared .notLike left rest
  | .sign sign :: rest => (operator? sign).bind fun operator => compared operator left rest
  | _ => none

def numeral? (text : String) : Option Nat :=
  if text.toList.all Char.isDigit then some (Decimal.ofDigits text.toList) else none

def predicate : Parser Expression
  | .word left :: .sign "=" :: .word right :: rest => do
    let m ← numeral? left
    let n ← numeral? right
    pure (.numerals m n, rest)
  | tokens => (scalar tokens).bind fun (left, rest) => said left rest

def factor (inner : Parser Expression) : Parser Expression
  | .sign "(" :: tokens =>
    match inner tokens with
    | some (found, .sign ")" :: rest) => some (found, rest)
    | _ => none
  | tokens => predicate tokens

def chain (item : Parser Expression) (word : String) : Nat → Parser (List Expression)
  | 0, _ => none
  | steps + 1, tokens => do
    let (first, rest) ← item tokens
    match rest with
    | .word found :: after =>
      if found = word then do
        let (others, rest) ← chain item word steps after
        pure (first :: others, rest)
      else pure ([first], rest)
    | _ => pure ([first], rest)

def group (connective : Connective) : List Expression → Option Expression
  | [] => none
  | first :: rest => some (rest.foldl (.joined connective) first)

def joined (connective : Connective) (item : Parser Expression) : Parser Expression := fun tokens =>
  do
    let (items, rest) ← chain item connective.sql (tokens.length + 1) tokens
    let found ← group connective items
    pure (found, rest)

def disjunction (item : Parser Expression) : Parser Expression := joined .or (joined .and item)

def expression : Nat → Parser Expression
  | 0 => disjunction predicate
  | depth + 1 => disjunction (factor (expression depth))

end Parser

def Expression.read (tokens : List Token) : Option Expression :=
  match Parser.expression tokens.length tokens with
  | some (found, []) => some found
  | _ => none

/-- The truth of a condition by itself, read from its text and its parameters.  Where there is no
text, there is no condition. -/
def Statement.truth? {V : Type} (condition : Statement) (quote : Char) (m : Interpretation V)
    (row : Column → Option V) : Option Truth := do
  match ← condition.tokens? quote with
  | [] => some .yes
  | tokens => (Expression.read tokens).map fun found => found.truth m row

/-! ## Reading what was joined -/

namespace Parser
variable {β : Type} {item : Parser Expression} {stops : List String} {tokens : β → List Token}
  {found : β → Expression}

/-- `item` reads `tokens` as `found` in front of anything that begins with none of the words
`stops`. -/
def Reads {α : Type} (item : Parser α) (stops : List String) (tokens : List Token) (found : α) :
    Prop :=
  ∀ rest, (∀ word ∈ stops, rest.head? ≠ some (.word word)) →
    item (tokens ++ rest) = some (found, rest)

theorem Reads.mono {α : Type} {item : Parser α} {stops more : List String} {tokens : List Token}
    {found : α} (reads : Reads item stops tokens found) (sub : ∀ word ∈ stops, word ∈ more) :
    Reads item more tokens found :=
  fun rest free => reads rest fun word member => free word (sub word member)

theorem chain_reads {word : String} (other : word ∉ stops) (parts : List β) (nonempty : parts ≠ [])
    (reads : ∀ part ∈ parts, Reads item stops (tokens part) (found part)) (steps : Nat)
    (enough : parts.length ≤ steps) :
    Reads (chain item word steps) (word :: stops)
      (List.intercalate [.word word] (parts.map tokens)) (parts.map found) := by
  induction parts generalizing steps with
  | nil => exact absurd rfl nonempty
  | cons part rest ih =>
      intro behind free
      have free' : ∀ stop ∈ stops, behind.head? ≠ some (.word stop) :=
        fun stop member => free stop (List.mem_cons_of_mem word member)
      have here := reads part (List.mem_cons_self ..)
      obtain ⟨steps, rfl⟩ : ∃ fewer, steps = fewer + 1 :=
        Nat.exists_eq_succ_of_ne_zero (by simp only [List.length_cons] at enough; omega)
      cases rest with
      | nil =>
          have alone : List.intercalate [.word word] ([part].map tokens) = tokens part := by simp
          rw [alone, chain, here behind free']
          cases behind with
          | nil => rfl
          | cons token behind =>
              cases token with
              | word text =>
                  have differs : text ≠ word := by
                    have first := free word (List.mem_cons_self ..)
                    simpa using first
                  simp [differs]
              | name identifier => rfl
              | sign text => rfl
              | placeholder number => rfl
              | value param => rfl
      | cons next rest =>
          have there := ih (by simp) (fun p member => reads p (List.mem_cons_of_mem part member))
            steps (by simpa using enough) behind free
          have apart : ∀ stop ∈ stops, (Token.word word :: (List.intercalate [.word word]
              ((next :: rest).map tokens) ++ behind)).head? ≠ some (.word stop) := by
            intro stop member same
            simp only [List.head?_cons, Option.some.injEq, Token.word.injEq] at same
            exact other (same ▸ member)
          have text : List.intercalate [.word word] ((part :: next :: rest).map tokens) ++ behind =
              tokens part ++ (.word word ::
                (List.intercalate [.word word] ((next :: rest).map tokens) ++ behind)) := by
            simp only [List.map_cons, List.intercalate_cons_cons, List.append_assoc,
              List.nil_append, List.cons_append]
          rw [text, chain, here _ apart]
          simp only [Option.bind_eq_bind, Option.bind_some, if_true, there]
          rfl

theorem length_le_intercalate {α : Type} (separator : List α) (one : 1 ≤ separator.length)
    (parts : List (List α)) :
    parts.length ≤ (List.intercalate separator parts).length + 1 := by
  induction parts with
  | nil => simp
  | cons part rest ih =>
      cases rest with
      | nil => simp
      | cons next rest =>
          rw [List.intercalate_cons_cons]
          simp only [List.length_cons, List.length_append] at ih ⊢
          omega

theorem group_eq_some (connective : Connective) (items : List Expression) (nonempty : items ≠ []) :
    ∃ whole, group connective items = some whole := by
  cases items with
  | nil => exact absurd rfl nonempty
  | cons first rest => exact ⟨_, rfl⟩

theorem joined_reads {connective : Connective} (other : connective.sql ∉ stops) (parts : List β)
    (reads : ∀ part ∈ parts, Reads item stops (tokens part) (found part)) {whole : Expression}
    (grouped : group connective (parts.map found) = some whole) :
    Reads (joined connective item) (connective.sql :: stops)
      (List.intercalate [.word connective.sql] (parts.map tokens)) whole := by
  intro behind free
  have nonempty : parts ≠ [] := by
    rintro rfl
    simp [group] at grouped
  have enough : parts.length ≤ (List.intercalate [.word connective.sql] (parts.map tokens) ++
      behind).length + 1 := by
    have least := length_le_intercalate [Token.word connective.sql] (by simp) (parts.map tokens)
    simp only [List.length_map] at least
    simp only [List.length_append]
    omega
  have read := chain_reads other parts nonempty reads _ enough behind free
  rw [joined, read]
  simp [grouped]

theorem joined_reads_one {connective : Connective} (other : connective.sql ∉ stops)
    {tokens : List Token} {found : Expression} (reads : Reads item stops tokens found) :
    Reads (joined connective item) (connective.sql :: stops) tokens found := by
  have only : ∀ part ∈ [tokens], Reads item stops (id part) found := by
    intro part member
    obtain rfl := List.mem_singleton.mp member
    exact reads
  have alone := @joined_reads _ item stops id (fun _ => found) connective other [tokens] only found rfl
  rw [List.map_singleton, List.intercalate_singleton] at alone
  exact alone

/-- Parts between which one connective stands are read together if each is read by itself. -/
theorem disjunction_reads (connective : Connective) (parts : List β)
    (reads : ∀ part ∈ parts, Reads item [] (tokens part) (found part)) {whole : Expression}
    (grouped : group connective (parts.map found) = some whole) :
    Reads (disjunction item) ["AND", "OR"]
      (List.intercalate [.word connective.sql] (parts.map tokens)) whole := by
  cases connective with
  | and =>
      -- The stronger connective is read inside, and the weaker one finds a single part.
      have conjunction := joined_reads (by simp) parts reads grouped
      have alone : Reads (disjunction item) ["OR", "AND"] _ whole :=
        joined_reads_one (by decide) conjunction
      exact alone.mono (by decide)
  | or =>
      have each : ∀ part ∈ parts, Reads (joined .and item) ["AND"] (tokens part) (found part) :=
        fun part member => joined_reads_one (by simp) (reads part member)
      have every : Reads (disjunction item) ["OR", "AND"] _ whole :=
        joined_reads (by decide) parts each grouped
      exact every.mono (by decide)

theorem disjunction_reads_one {tokens : List Token} {found : Expression}
    (reads : Reads item [] tokens found) : Reads (disjunction item) ["AND", "OR"] tokens found := by
  have inner : Reads (joined .and item) ["AND"] tokens found := joined_reads_one (by simp) reads
  have outer : Reads (disjunction item) ["OR", "AND"] tokens found :=
    joined_reads_one (by decide) inner
  exact outer.mono (by decide)

end Parser

theorem Expression.truth_group {V : Type} (m : Interpretation V) (row : Column → Option V)
    (connective : Connective) (items : List Expression) {whole : Expression}
    (grouped : Parser.group connective items = some whole) :
    whole.truth m row = connective.join (items.map fun item => item.truth m row) := by
  cases items with
  | nil => simp [Parser.group] at grouped
  | cons first rest =>
      obtain rfl : rest.foldl (.joined connective) first = whole := by simpa [Parser.group] using grouped
      rw [List.map_cons, Connective.join, List.foldl_map]
      induction rest generalizing first with
      | nil => rfl
      | cons second rest ih => exact ih (.joined connective first second) rfl

end RecordMapper.Sql
