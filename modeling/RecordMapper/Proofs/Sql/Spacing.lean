import RecordMapper.Proofs.Sql.Scan
/-! # Pieces that can be told apart

In the text of a statement two identifiers must not touch, and no word may run into a placeholder
or into the next word.  `Spaced` says so of a list of pieces, together with what the fixed texts
are made of.  Lists put together with texts between their parts are spaced if the parts are, and
`scan_hidden` is what a scan finds in the text of a spaced list, as long as its quote character stands
nowhere but in identifiers. -/
set_option autoImplicit false
namespace RecordMapper.Sql

def isPrinted (c : Char) : Bool := c.isAlphanum || " ?$(),.=<>*".toList.contains c

/-- The quote character never stands outside an identifier. -/
def Dialect.Legible (dialect : Dialect) : Prop := isPrinted dialect.quote = false

instance (dialect : Dialect) : Decidable dialect.Legible :=
  inferInstanceAs (Decidable (_ = _))

def isOperator (c : Char) : Bool := c == '<' || c == '=' || c == '>'

/-- The character runs into no other: it belongs to no word, number, placeholder or operator. -/
def isLoose (c : Char) : Bool := !(c.isAlphanum || c == '$' || isOperator c)

namespace Fragment

def beginsLoose : Fragment → Bool
  | .text s => s.toList.head?.any isLoose
  | .name _ | .bind _ => false

def endsLoose : Fragment → Bool
  | .text s => s.toList.getLast?.any isLoose
  | .name _ | .bind _ => false

/-- The pieces do not run into one another. -/
def Apart (piece next : Fragment) : Prop := piece.endsLoose = true ∨ next.beginsLoose = true

/-- Fixed text is not empty, and has no placeholder in it. -/
def isTidy : Fragment → Bool
  | .text s => !s.toList.isEmpty && s.toList.all fun c => isPrinted c && c != '?' && c != '$'
  | .name _ | .bind _ => true

theorem isTidy_text {s : String} (tidy : (Fragment.text s).isTidy = true) :
    s.toList ≠ [] ∧ ∀ c ∈ s.toList, isPrinted c = true ∧ c ≠ '?' ∧ c ≠ '$' := by
  simp only [isTidy, Bool.and_eq_true, Bool.not_eq_true', List.isEmpty_eq_false_iff,
    List.all_eq_true, bne_iff_ne] at tidy
  exact ⟨tidy.1, fun c member => ⟨(tidy.2 c member).1.1, (tidy.2 c member).1.2, (tidy.2 c member).2⟩⟩

def Spaced : List Fragment → Prop
  | [] => True
  | piece :: rest => piece.isTidy = true ∧ (∀ next ∈ rest.head?, piece.Apart next) ∧ Spaced rest

/-! ## Putting spaced lists together -/

theorem spaced_nil : Spaced [] := trivial

theorem spaced_name (identifier : String) : Spaced [.name identifier] :=
  ⟨rfl, by simp, trivial⟩

theorem spaced_bind (param : Param) : Spaced [.bind param] := ⟨rfl, by simp, trivial⟩

theorem spaced_text (s : String) (tidy : (Fragment.text s).isTidy = true) : Spaced [.text s] :=
  ⟨tidy, by simp, trivial⟩

def opens (s : String) : Bool := (Fragment.text s).isTidy && (Fragment.text s).endsLoose

def closes (s : String) : Bool := (Fragment.text s).isTidy && (Fragment.text s).beginsLoose

def separates (s : String) : Bool := opens s && closes s

theorem spaced_opening (s : String) (pieces : List Fragment) (opening : opens s = true)
    (spaced : Spaced pieces) : Spaced (.text s :: pieces) := by
  obtain ⟨tidy, ends⟩ := (Bool.and_eq_true _ _).mp opening
  exact ⟨tidy, fun _ _ => Or.inl ends, spaced⟩

theorem spaced_append (front back : List Fragment) (spacedFront : Spaced front)
    (begins : ∀ piece ∈ back.head?, piece.beginsLoose = true) (spacedBack : Spaced back) :
    Spaced (front ++ back) := by
  induction front with
  | nil => exact spacedBack
  | cons piece rest ih =>
      obtain ⟨tidy, next, spacedRest⟩ := spacedFront
      refine ⟨tidy, ?_, ih spacedRest⟩
      cases rest with
      | nil => exact fun piece member => Or.inr (begins piece member)
      | cons _ _ => exact next

theorem spaced_closing (pieces : List Fragment) (s : String) (closing : closes s = true)
    (spaced : Spaced pieces) : Spaced (pieces ++ [.text s]) := by
  obtain ⟨tidy, begins⟩ := (Bool.and_eq_true _ _).mp closing
  exact spaced_append pieces _ spaced (by simpa using begins) (spaced_text s tidy)

theorem spaced_between (front : List Fragment) (s : String) (back : List Fragment)
    (separating : separates s = true) (spacedFront : Spaced front) (spacedBack : Spaced back) :
    Spaced (front ++ .text s :: back) := by
  obtain ⟨opening, closing⟩ := (Bool.and_eq_true _ _).mp separating
  obtain ⟨-, begins⟩ := (Bool.and_eq_true _ _).mp closing
  exact spaced_append front _ spacedFront (by simpa using begins)
    (spaced_opening s back opening spacedBack)

theorem joined_cons_cons (separator : String) (part next : List Fragment)
    (rest : List (List Fragment)) :
    joined separator (part :: next :: rest) =
      part ++ .text separator :: joined separator (next :: rest) := by
  simp [joined, List.intercalate]

theorem spaced_joined (separator : String) (parts : List (List Fragment))
    (separating : separates separator = true) (spaced : ∀ part ∈ parts, Spaced part) :
    Spaced (joined separator parts) := by
  induction parts with
  | nil => exact spaced_nil
  | cons part rest ih =>
      have here : Spaced part := spaced part (List.mem_cons_self ..)
      have there := ih fun other member => spaced other (List.mem_cons_of_mem part member)
      cases rest with
      | nil => simpa [joined] using here
      | cons next rest =>
          rw [joined_cons_cons]
          exact spaced_between part separator _ separating here there

/-! ## The parameters of a list -/

@[simp] theorem params_nil : params [] = [] := rfl

@[simp] theorem params_text (s : String) (rest : List Fragment) :
    params (.text s :: rest) = params rest := rfl

@[simp] theorem params_name (identifier : String) (rest : List Fragment) :
    params (.name identifier :: rest) = params rest := rfl

@[simp] theorem params_bind (param : Param) (rest : List Fragment) :
    params (.bind param :: rest) = param :: params rest := rfl

@[simp] theorem params_append (xs ys : List Fragment) : params (xs ++ ys) = params xs ++ params ys :=
  List.filterMap_append

theorem filterMap_joined {α : Type} {read : Fragment → Option α} (silent : ∀ s, read (.text s) = none)
    (separator : String) (parts : List (List Fragment)) :
    (joined separator parts).filterMap read = parts.flatMap (List.filterMap read) := by
  induction parts with
  | nil => rfl
  | cons part rest ih =>
      cases rest with
      | nil => simp [joined]
      | cons next rest =>
          rw [joined_cons_cons, List.filterMap_append, List.filterMap_cons_none (silent separator), ih,
            ← List.flatMap_cons]

theorem params_joined (separator : String) (parts : List (List Fragment)) :
    params (joined separator parts) = parts.flatMap params :=
  filterMap_joined (fun _ => rfl) separator parts

/-! ## The scan of a spaced list -/

/-- What a scan finds in the text of some pieces after `n` parameters. -/
def lexemes (dialect : Dialect) (n : Nat) : List Fragment → List Lexeme
  | [] => []
  | .text s :: rest => s.toList.map .plain ++ lexemes dialect n rest
  | .name identifier :: rest => .name identifier :: lexemes dialect n rest
  | .bind _ :: rest =>
    (dialect.marker (n + 1)).toList.map .plain ++ lexemes dialect (n + 1) rest

end Fragment

theorem Dialect.Legible.ne_quote {dialect : Dialect} (legible : dialect.Legible) {c : Char}
    (printed : isPrinted c = true) : c ≠ dialect.quote := by
  intro same
  rw [same, legible] at printed
  exact Bool.false_ne_true printed

theorem isPrinted_of_isDigit {c : Char} (digit : c.isDigit = true) : isPrinted c = true := by
  simp [isPrinted, Char.isAlphanum, digit]

theorem marker_positional {dialect : Dialect} (style : dialect.placeholder = .positional)
    (n : Nat) : (dialect.marker n).toList = ['?'] := by
  simp [Dialect.marker, style]

theorem marker_numbered {dialect : Dialect} (style : dialect.placeholder = .numbered) (n : Nat) :
    (dialect.marker n).toList = '$' :: Nat.toDigits 10 n := by
  simp [Dialect.marker, style, toString, Nat.repr]

theorem isPrinted_marker (dialect : Dialect) (n : Nat) :
    ∀ c ∈ (dialect.marker n).toList, isPrinted c = true := by
  intro c member
  cases style : dialect.placeholder with
  | positional =>
      rw [marker_positional style, List.mem_singleton] at member
      subst member
      decide
  | numbered =>
      rw [marker_numbered style, List.mem_cons] at member
      rcases member with rfl | member
      · decide
      · exact isPrinted_of_isDigit (Nat.isDigit_of_mem_toDigits (by decide) (by decide) member)

theorem marker_ne_nil (dialect : Dialect) (n : Nat) : (dialect.marker n).toList ≠ [] := by
  cases style : dialect.placeholder with
  | positional => simp [marker_positional style]
  | numbered => simp [marker_numbered style]

namespace Fragment

def Hidden (dialect : Dialect) (n : Nat) (pieces : List Fragment) : Prop :=
  dialect.quote ∉ Lexeme.remaining (lexemes dialect n pieces)

section
variable {dialect : Dialect} {n : Nat} {rest : List Fragment}

theorem hidden_text {s : String} : Hidden dialect n (.text s :: rest) ↔
    (∀ c ∈ s.toList, c ≠ dialect.quote) ∧ Hidden dialect n rest :=
  Lexeme.notMem_remaining_plain

theorem hidden_name {identifier : String} :
    Hidden dialect n (.name identifier :: rest) ↔ Hidden dialect n rest := Iff.rfl

theorem hidden_bind {param : Param} : Hidden dialect n (.bind param :: rest) ↔
    (∀ c ∈ (dialect.marker (n + 1)).toList, c ≠ dialect.quote) ∧ Hidden dialect (n + 1) rest :=
  Lexeme.notMem_remaining_plain

end

theorem hidden_of_legible {dialect : Dialect} (legible : dialect.Legible) (n : Nat)
    (pieces : List Fragment) (spaced : Spaced pieces) : Hidden dialect n pieces := by
  induction pieces generalizing n with
  | nil => simp [Hidden, lexemes, Lexeme.remaining]
  | cons piece rest ih =>
      obtain ⟨tidy, -, spacedRest⟩ := spaced
      cases piece with
      | text s =>
          exact hidden_text.mpr ⟨fun c member => legible.ne_quote ((isTidy_text tidy).2 c member).1,
            ih n spacedRest⟩
      | name identifier => exact hidden_name.mpr (ih n spacedRest)
      | bind param =>
          exact hidden_bind.mpr ⟨fun c member =>
            legible.ne_quote (isPrinted_marker dialect (n + 1) c member), ih (n + 1) spacedRest⟩

/-- The text behind an identifier does not begin with a quote. -/
theorem head_sql_ne_quote {dialect : Dialect} {n : Nat} {identifier : String}
    {pieces : List Fragment} (hidden : Hidden dialect n pieces)
    (spaced : Spaced (.name identifier :: pieces)) :
    (sql dialect n pieces).toList.head? ≠ some dialect.quote := by
  obtain ⟨-, next, spaced⟩ := spaced
  cases pieces with
  | nil => simp [sql]
  | cons piece rest =>
      have apart : (Fragment.name identifier).Apart piece := next piece rfl
      cases piece with
      | name other => simp [Apart, beginsLoose, endsLoose] at apart
      | text s =>
          obtain ⟨c, tail, shape⟩ := List.exists_cons_of_ne_nil (isTidy_text spaced.1).1
          have differs := (hidden_text.mp hidden).1 c (by simp [shape])
          simpa [sql, shape] using differs
      | bind param =>
          obtain ⟨c, tail, shape⟩ := List.exists_cons_of_ne_nil (marker_ne_nil dialect (n + 1))
          have differs := (hidden_bind.mp hidden).1 c (by simp [shape])
          simpa [sql, shape] using differs

/-- The scan of some pieces goes on with whatever follows them, unless that begins with a quote. -/
theorem scanFrom_hidden {dialect : Dialect} (n : Nat) (pieces : List Fragment)
    (hidden : Hidden dialect n pieces) (spaced : Spaced pieces) (rest : List Char)
    (follows : rest.head? ≠ some dialect.quote) :
    scanFrom dialect.quote .outside ((sql dialect n pieces).toList ++ rest) =
      (scanFrom dialect.quote .outside rest).map (lexemes dialect n pieces ++ ·) := by
  induction pieces generalizing n with
  | nil =>
      rw [sql, lexemes]
      simp
  | cons piece others ih =>
      obtain ⟨tidy, next, spacedRest⟩ := spaced
      cases piece with
      | text s =>
          obtain ⟨free, hidden⟩ := hidden_text.mp hidden
          simp only [sql, lexemes, String.toList_append, List.append_assoc]
          rw [scanFrom_plain _ _ _ free, ih n hidden spacedRest, Option.map_map]
          rfl
      | name identifier =>
          -- A quote behind the identifier would be read as the second half of a doubled one.
          have differs : ((sql dialect n others).toList ++ rest).head? ≠ some dialect.quote := by
            have inside := head_sql_ne_quote (hidden_name.mp hidden) ⟨tidy, next, spacedRest⟩
            cases text : (sql dialect n others).toList with
            | nil => exact follows
            | cons c tail =>
                rw [text] at inside
                exact inside
          simp only [sql, lexemes, String.toList_append, List.append_assoc]
          rw [scanFrom_quoted _ _ _ differs, ih n (hidden_name.mp hidden) spacedRest, Option.map_map]
          rfl
      | bind param =>
          obtain ⟨free, hidden⟩ := hidden_bind.mp hidden
          simp only [sql, lexemes, String.toList_append, List.append_assoc]
          rw [scanFrom_plain _ _ _ free, ih (n + 1) hidden spacedRest, Option.map_map]
          rfl

theorem scanFrom_sql {dialect : Dialect} (legible : dialect.Legible) (n : Nat)
    (pieces : List Fragment) (spaced : Spaced pieces) (rest : List Char)
    (follows : rest.head? ≠ some dialect.quote) :
    scanFrom dialect.quote .outside ((sql dialect n pieces).toList ++ rest) =
      (scanFrom dialect.quote .outside rest).map (lexemes dialect n pieces ++ ·) :=
  scanFrom_hidden n pieces (hidden_of_legible legible n pieces spaced) spaced rest follows

theorem scan_hidden {dialect : Dialect} (pieces : List Fragment) (hidden : Hidden dialect 0 pieces)
    (spaced : Spaced pieces) :
    scan dialect.quote (statement dialect pieces).sql = some (lexemes dialect 0 pieces) := by
  have whole := scanFrom_hidden 0 pieces hidden spaced [] (by simp)
  rw [List.append_nil, scanFrom, Option.map_some, List.append_nil] at whole
  exact whole

theorem scan_sql {dialect : Dialect} (legible : dialect.Legible) (pieces : List Fragment)
    (spaced : Spaced pieces) :
    scan dialect.quote (statement dialect pieces).sql = some (lexemes dialect 0 pieces) :=
  scan_hidden pieces (hidden_of_legible legible 0 pieces spaced) spaced

end Fragment

end RecordMapper.Sql
