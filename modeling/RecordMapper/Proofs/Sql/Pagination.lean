import RecordMapper.Decimal.Literal
import RecordMapper.Proofs.Calendar.Numerals
import RecordMapper.Proofs.Decimal.Digits
import RecordMapper.Proofs.Text.Blank
/-! # Pagination clauses

`Pagination.ofText?` reads the clause `LIMIT n OFFSET m`, of which either part may be missing, by its
words.  It reads every clause as it is written (`Pagination.ofText?_text`), and does not see white space
around the clause (`Text.words_trim`).  Behind `LIMIT 1` a clause without a limit is one with that
limit, and a clause with a limit of its own is none any more (`Pagination.ofText?_limited`). -/
set_option autoImplicit false
namespace RecordMapper

/-! ## Words -/

namespace Text

def begun (read : List Char) : List (List Char) := if read.isEmpty then [] else [read.reverse]

def wordsFrom : List Char → List Char → List (List Char)
  | read, [] => begun read
  | read, c :: rest => if isBlank c then begun read ++ wordsFrom [] rest else wordsFrom (c :: read) rest

/-- What stands between the white space of a text. -/
def words (text : String) : List (List Char) := wordsFrom [] text.toList

theorem wordsFrom_blank {c : Char} (blank : isBlank c = true) (read rest : List Char) :
    wordsFrom read (c :: rest) = begun read ++ wordsFrom [] rest := by
  rw [wordsFrom, if_pos blank]

theorem wordsFrom_word {word : List Char} (shown : ∀ c ∈ word, isBlank c = false)
    (read rest : List Char) : wordsFrom read (word ++ rest) = wordsFrom (word.reverse ++ read) rest := by
  induction word generalizing read with
  | nil => rfl
  | cons c word ih =>
      have here : ¬ isBlank c = true := by simp [shown c (List.mem_cons_self ..)]
      rw [List.cons_append, wordsFrom, if_neg here,
        ih fun d member => shown d (List.mem_cons_of_mem c member), List.reverse_cons,
        List.append_assoc, List.singleton_append]

theorem wordsFrom_front {front : List Char} (blank : ∀ c ∈ front, isBlank c = true)
    (rest : List Char) : wordsFrom [] (front ++ rest) = wordsFrom [] rest := by
  induction front with
  | nil => rfl
  | cons c front ih =>
      rw [List.cons_append, wordsFrom_blank (blank c (List.mem_cons_self ..))]
      exact ih fun d member => blank d (List.mem_cons_of_mem c member)

theorem wordsFrom_back {back : List Char} (blank : ∀ c ∈ back, isBlank c = true)
    (read cs : List Char) : wordsFrom read (cs ++ back) = wordsFrom read cs := by
  induction cs generalizing read with
  | nil =>
      cases back with
      | nil => rfl
      | cons c back =>
          have none := wordsFrom_front (fun d member => blank d (List.mem_cons_of_mem c member)) []
          rw [List.append_nil] at none
          rw [List.nil_append, wordsFrom_blank (blank c (List.mem_cons_self ..)), none]
          exact List.append_nil _
  | cons c cs ih =>
      rw [List.cons_append, wordsFrom, wordsFrom, ih, ih]

theorem words_trim (text : String) : words (trim text) = words text := by
  obtain ⟨front, back, whole, blankFront, blankBack⟩ := exists_surrounded text.toList
  have same : wordsFrom [] (trimChars text.toList) =
      wordsFrom [] (front ++ trimChars text.toList ++ back) := by
    rw [wordsFrom_back blankBack, wordsFrom_front blankFront]
  rw [words, words, trim, String.toList_ofList]
  exact same.trans (congrArg _ whole.symm)

/-- The words of a text are those that it was put together from. -/
theorem words_intercalate {parts : List String}
    (legible : ∀ word ∈ parts, word ≠ "" ∧ ∀ c ∈ word.toList, isBlank c = false) :
    words (String.intercalate " " parts) = parts.map String.toList := by
  induction parts with
  | nil => rfl
  | cons word rest ih =>
      obtain ⟨nonempty, shown⟩ := legible word (List.mem_cons_self ..)
      have later := ih fun other member => legible other (List.mem_cons_of_mem word member)
      have alone : begun word.toList.reverse = [word.toList] := by
        have some' : word.toList.reverse.isEmpty = false := by simpa using nonempty
        rw [begun, some', if_neg Bool.false_ne_true, List.reverse_reverse]
      rw [List.map_cons, ← later, words, words]
      cases rest with
      | nil =>
          have whole := wordsFrom_word shown [] []
          rw [List.append_nil, List.append_nil] at whole
          rw [String.intercalate_singleton, whole]
          exact alone
      | cons next rest =>
          rw [String.intercalate_cons_of_ne_nil (List.cons_ne_nil next rest), String.toList_append,
            String.toList_append, List.append_assoc, wordsFrom_word shown, List.append_nil]
          show wordsFrom _ (' ' :: _) = _
          rw [wordsFrom_blank (by decide), alone]
          rfl

end Text

/-! ## Clauses -/

namespace Sql

/-- What a pagination clause asks for. -/
structure Pagination where
  limit : Option Nat
  offset : Option Nat
deriving DecidableEq

namespace Pagination

def isKeyword (keyword : String) (word : List Char) : Bool := word.map Char.toUpper == keyword.toList

def numeral? (word : List Char) : Option Nat :=
  if word.isEmpty || !word.all Char.isDigit then none else some (Decimal.ofDigits word)

def part? (keyword : String) : List (List Char) → Option (Option Nat × List (List Char))
  | [] => some (none, [])
  | word :: rest =>
    if isKeyword keyword word then
      match rest with
      | [] => none
      | number :: rest => (numeral? number).map fun n => (some n, rest)
    else some (none, word :: rest)

def ofWords? (words : List (List Char)) : Option Pagination := do
  let (limit, rest) ← part? "LIMIT" words
  let (offset, rest) ← part? "OFFSET" rest
  if rest.isEmpty then some ⟨limit, offset⟩ else none

def ofText? (text : String) : Option Pagination := ofWords? (Text.words text)

theorem ofWords?_eq_some_iff {words : List (List Char)} {clause : Pagination} :
    ofWords? words = some clause ↔ ∃ rest, part? "LIMIT" words = some (clause.limit, rest) ∧
      part? "OFFSET" rest = some (clause.offset, []) := by
  unfold ofWords?
  constructor
  · intro read
    obtain ⟨⟨limit, rest⟩, first, read⟩ := Option.bind_eq_some_iff.mp read
    obtain ⟨⟨offset, left⟩, second, read⟩ := Option.bind_eq_some_iff.mp read
    dsimp only at read
    split at read
    · next none =>
      obtain rfl := Option.some.inj read
      exact ⟨rest, first, List.isEmpty_iff.mp none ▸ second⟩
    · cases read
  · rintro ⟨rest, first, second⟩
    refine Option.bind_eq_some_iff.mpr ⟨_, first, ?_⟩
    exact Option.bind_eq_some_iff.mpr ⟨_, second, rfl⟩

def writtenPart (keyword : String) (number : Option Nat) : List String :=
  number.elim [] fun n => [keyword, toString n]

def text (clause : Pagination) : String :=
  String.intercalate " " (writtenPart "LIMIT" clause.limit ++ writtenPart "OFFSET" clause.offset)

theorem legible_writtenPart {keyword : String} (nonempty : keyword ≠ "")
    (shown : keyword.toList.all fun c => !Text.isBlank c) (number : Option Nat) :
    ∀ word ∈ writtenPart keyword number, word ≠ "" ∧ ∀ c ∈ word.toList, Text.isBlank c = false := by
  intro word member
  cases number with
  | none => cases member
  | some n =>
      rcases List.mem_cons.mp member with rfl | member
      · exact ⟨nonempty, fun c inside => by simpa using List.all_eq_true.mp shown c inside⟩
      · obtain rfl := List.mem_singleton.mp member
        have digits : (toString n).toList = Nat.toDigits 10 n := Nat.toList_repr
        constructor
        · intro none
          exact Nat.toDigits_ne_nil (digits.symm.trans (congrArg String.toList none))
        · rw [digits]
          exact fun c member =>
            Calendar.isBlank_of_isDigit (Decimal.isDigit_of_mem_toDigits member)

theorem numeral?_toString (n : Nat) : numeral? (toString n).toList = some n := by
  have digits : (toString n).toList = Nat.toDigits 10 n := Nat.toList_repr
  have nonempty : (Nat.toDigits 10 n).isEmpty = false :=
    List.isEmpty_eq_false_iff.mpr Nat.toDigits_ne_nil
  have all : (Nat.toDigits 10 n).all Char.isDigit = true :=
    List.all_eq_true.mpr fun c member => Decimal.isDigit_of_mem_toDigits member
  rw [digits, numeral?, nonempty, all, Decimal.ofDigits_toDigits]
  rfl

theorem part?_of_other {keyword : String} {word : List Char} (other : isKeyword keyword word = false)
    (rest : List (List Char)) : part? keyword (word :: rest) = some (none, word :: rest) := by
  rw [part?.eq_def]
  dsimp only
  rw [other, if_neg Bool.false_ne_true]

theorem part?_writtenPart {keyword : String} (own : isKeyword keyword keyword.toList = true)
    (number : Option Nat) {rest : List (List Char)}
    (other : ∀ word ∈ rest.head?, isKeyword keyword word = false) :
    part? keyword ((writtenPart keyword number).map String.toList ++ rest) = some (number, rest) := by
  cases number with
  | none =>
      cases rest with
      | nil => rfl
      | cons word rest => exact part?_of_other (other word rfl) rest
  | some n =>
      show part? keyword (keyword.toList :: (toString n).toList :: rest) = _
      rw [part?, if_pos own, numeral?_toString]
      rfl

theorem ofText?_text (clause : Pagination) : ofText? clause.text = some clause := by
  have legible : ∀ word ∈ writtenPart "LIMIT" clause.limit ++ writtenPart "OFFSET" clause.offset,
      word ≠ "" ∧ ∀ c ∈ word.toList, Text.isBlank c = false :=
    List.forall_mem_append.mpr ⟨legible_writtenPart (by decide) (by decide) _,
      legible_writtenPart (by decide) (by decide) _⟩
  have other : ∀ word ∈ ((writtenPart "OFFSET" clause.offset).map String.toList).head?,
      isKeyword "LIMIT" word = false := by
    intro word member
    cases found : clause.offset with
    | none =>
        rw [found] at member
        cases member
    | some m =>
        rw [found] at member
        obtain rfl : "OFFSET".toList = word := Option.some.inj member
        decide
  have offset : part? "OFFSET" ((writtenPart "OFFSET" clause.offset).map String.toList) =
      some (clause.offset, []) := by
    have whole := @part?_writtenPart "OFFSET" (by decide) clause.offset [] (by simp)
    rwa [List.append_nil] at whole
  rw [ofText?, text, Text.words_intercalate legible, List.map_append]
  exact ofWords?_eq_some_iff.mpr ⟨_, part?_writtenPart (by decide) clause.limit other, offset⟩

example : ofText? "\tlimit 010 " = some ⟨some 10, none⟩ := by decide

/-! ## A further limit -/

theorem part?_without_number {keyword : String} {words rest : List (List Char)}
    (read : part? keyword words = some (none, rest)) : rest = words := by
  unfold part? at read
  split at read
  · exact (Prod.mk.inj (Option.some.inj read)).2.symm
  · split at read
    · split at read
      · cases read
      · obtain ⟨n, -, pair⟩ := Option.map_eq_some_iff.mp read
        cases pair
    · exact (Prod.mk.inj (Option.some.inj read)).2.symm

theorem part?_with_number {keyword : String} {words rest : List (List Char)} {n : Nat}
    (read : part? keyword words = some (some n, rest)) :
    ∃ word number, words = word :: number :: rest ∧ isKeyword keyword word = true := by
  unfold part? at read
  split at read
  · cases read
  · next word behind =>
    split at read
    · next own =>
      split at read
      · cases read
      · next number left =>
        obtain ⟨m, -, pair⟩ := Option.map_eq_some_iff.mp read
        obtain ⟨-, rfl⟩ := Prod.mk.inj pair
        exact ⟨word, number, rfl, own⟩
    · cases read

theorem isKeyword_other {word : List Char} (limit : isKeyword "LIMIT" word = true) :
    isKeyword "OFFSET" word = false := by
  have same : word.map Char.toUpper = "LIMIT".toList := by simpa [isKeyword] using limit
  rw [isKeyword, same]
  decide

/-- Behind a limit there may be an offset, and no other limit. -/
theorem ofWords?_limited {words : List (List Char)} {asked : Pagination}
    (read : ofWords? words = some asked) :
    ofWords? ("LIMIT".toList :: ['1'] :: words) =
      if asked.limit = none then some ⟨some 1, asked.offset⟩ else none := by
  have limited : part? "LIMIT" ("LIMIT".toList :: ['1'] :: words) = some (some 1, words) := rfl
  obtain ⟨rest, first, second⟩ := ofWords?_eq_some_iff.mp read
  cases own : asked.limit with
  | none =>
      rw [own] at first
      obtain rfl := part?_without_number first
      exact ofWords?_eq_some_iff.mpr ⟨rest, limited, second⟩
  | some n =>
      rw [own] at first
      obtain ⟨word, number, rfl, keyword⟩ := part?_with_number first
      refine Option.eq_none_iff_forall_ne_some.mpr fun clause both => ?_
      obtain ⟨left, here, later⟩ := ofWords?_eq_some_iff.mp both
      obtain ⟨-, rfl⟩ := Prod.mk.inj (Option.some.inj (limited.symm.trans here))
      rw [part?_of_other (isKeyword_other keyword)] at later
      exact absurd (Prod.mk.inj (Option.some.inj later)).2 (List.cons_ne_nil word _)

theorem ofText?_limited {text : String} {asked : Pagination} (read : ofText? text = some asked) :
    ofText? (Text.trim ("LIMIT 1 " ++ text)) =
      if asked.limit = none then some ⟨some 1, asked.offset⟩ else none := by
  have words : Text.words ("LIMIT 1 " ++ text) = "LIMIT".toList :: ['1'] :: Text.words text := by
    rw [Text.words, String.toList_append]
    rfl
  rw [ofText?, Text.words_trim, words]
  exact ofWords?_limited read

end Pagination

end Sql

end RecordMapper
