import RecordMapper.Proofs.Text.Blank
import RecordMapper.Sql.Select
/-! # Entries of the select list

An entry is read by its first arrow, the mark of a count and the white space around its parts
(`SelectField.ofParts`).  A column is read as it was written if it holds none of these
(`SelectField.ofText_eq_self_iff`); with an output name behind an arrow it is taken apart again
(`SelectField.ofText_entryText`) if that is so and the name has no white space around it, and in no
other case (`SelectField.ofText_entryText_iff`). -/
set_option autoImplicit false
namespace RecordMapper.Sql

/-- An entry of the select list holds the name as it is. -/
structure Verbatim (name : String) : Prop where
  trimmed : Text.trim name = name
  noArrow : ¬ ['-', '>'] <:+: name.toList
  noCount : name.toList.head? ≠ some '#'

structure IsPlainName (name : String) : Prop where
  nonempty : name ≠ ""
  trimmed : Text.trim name = name
  noArrow : ¬ ['-', '>'] <:+: name.toList
  noCount : name.toList.head? ≠ some '#'
  single : name ≠ "*"

theorem IsPlainName.verbatim {name : String} (plain : IsPlainName name) : Verbatim name :=
  ⟨plain.trimmed, plain.noArrow, plain.noCount⟩

theorem trimChars_toList {name : String} (trimmed : Text.trim name = name) :
    Text.trimChars name.toList = name.toList := by
  have same := congrArg String.toList trimmed
  rwa [Text.trim, String.toList_ofList] at same

namespace SelectField

/-! ## The first arrow -/

theorem splitArrow_cons {c : Char} {rest : List Char} (other : ¬ (c = '-' ∧ rest.head? = some '>')) :
    splitArrow (c :: rest) = (splitArrow rest).map fun (before, after) => (c :: before, after) := by
  rw [splitArrow]
  rintro tail rfl rfl
  exact other ⟨rfl, rfl⟩

theorem noArrow_cons {c : Char} {rest : List Char} (noArrow : ¬ ['-', '>'] <:+: c :: rest) :
    ¬ (c = '-' ∧ rest.head? = some '>') ∧ ¬ ['-', '>'] <:+: rest := by
  refine ⟨?_, fun inside => noArrow (List.infix_cons inside)⟩
  rintro ⟨rfl, first⟩
  obtain ⟨tail, rfl⟩ := List.head?_eq_some_iff.mp first
  exact noArrow (List.prefix_append ['-', '>'] tail).isInfix

theorem splitArrow_none {cs : List Char} (noArrow : ¬ ['-', '>'] <:+: cs) : splitArrow cs = none := by
  induction cs with
  | nil => rfl
  | cons c rest ih =>
      obtain ⟨other, noArrow⟩ := noArrow_cons noArrow
      rw [splitArrow_cons other, ih noArrow]
      rfl

/-- The first arrow is found behind a text that holds none and ends with a blank. -/
theorem splitArrow_arrow (source output : List Char) (noArrow : ¬ ['-', '>'] <:+: source) :
    splitArrow (source ++ ' ' :: '-' :: '>' :: output) = some (source ++ [' '], output) := by
  induction source with
  | nil => rfl
  | cons c rest ih =>
      obtain ⟨other, noArrow⟩ := noArrow_cons noArrow
      have other' : ¬ (c = '-' ∧ (rest ++ ' ' :: '-' :: '>' :: output).head? = some '>') := by
        cases rest with
        | nil => simp
        | cons d rest => exact other
      rw [List.cons_append, splitArrow_cons other', ih noArrow]
      rfl

/-- Where a text holds an arrow, less of it than the whole stands before the first one. -/
theorem splitArrow_infix {source : List Char} (arrow : ['-', '>'] <:+: source) (rest : List Char) :
    ∃ before after, splitArrow (source ++ rest) = some (before, after) ∧
      before.length < source.length := by
  induction source with
  | nil => simp at arrow
  | cons c source ih =>
      by_cases here : c = '-' ∧ source.head? = some '>'
      · obtain ⟨rfl, first⟩ := here
        obtain ⟨tail, rfl⟩ := List.head?_eq_some_iff.mp first
        exact ⟨[], tail ++ rest, rfl, by simp⟩
      · have later : ['-', '>'] <:+: source := by
          refine (List.infix_cons_iff.mp arrow).resolve_left fun front => here ?_
          obtain ⟨tail, shape⟩ := front
          obtain ⟨rfl, rfl⟩ := List.cons.inj shape
          exact ⟨rfl, rfl⟩
        have other : ¬ (c = '-' ∧ (source ++ rest).head? = some '>') := by
          cases source with
          | nil => simp at later
          | cons d source => exact here
        obtain ⟨before, after, split, shorter⟩ := ih later
        refine ⟨c :: before, after, ?_, Nat.succ_lt_succ shorter⟩
        rw [List.cons_append, splitArrow_cons other, split]
        rfl

/-! ## The parts of an entry -/

def ofParts (source : List Char) (output : Option String) : SelectField :=
  let (column, count) := match source with
    | '#' :: column => (String.ofList column, true)
    | column => (String.ofList column, false)
  { column := column, outputName := output.filter (· != column), count := count }

theorem ofText_of_split {entry : String} {source output : List Char}
    (split : splitArrow entry.toList = some (source, output)) :
    ofText entry = ofParts (Text.trimChars source) (some (String.ofList (Text.trimChars output))) := by
  rw [ofText, split]
  rfl

theorem ofText_of_none {entry : String} (none : splitArrow entry.toList = none) :
    ofText entry = ofParts (Text.trimChars entry.toList) Option.none := by
  rw [ofText, none]
  rfl

theorem ofParts_of_noCount {source : List Char} (noCount : source.head? ≠ some '#')
    (output : Option String) : ofParts source output =
      ⟨String.ofList source, output.filter (· != String.ofList source), false⟩ := by
  unfold ofParts
  split
  next found =>
  split at found
  · exact absurd rfl noCount
  · obtain ⟨rfl, rfl⟩ := Prod.mk.inj found
    rfl

theorem count_ofParts {source : List Char} {output : Option String}
    (count : (ofParts source output).count = false) : source.head? ≠ some '#' := by
  intro mark
  obtain ⟨column, rfl⟩ := List.head?_eq_some_iff.mp mark
  cases count

theorem length_column_ofParts (source : List Char) (output : Option String) :
    (ofParts source output).column.toList.length ≤ source.length := by
  unfold ofParts
  split
  next found =>
  split at found
  · obtain ⟨rfl, -⟩ := Prod.mk.inj found
    simp
  · obtain ⟨rfl, -⟩ := Prod.mk.inj found
    simp

theorem column_ofParts_ne {before : List Char} {column : String} (output : Option String)
    (shorter : before.length < column.toList.length) :
    (ofParts (Text.trimChars before) output).column ≠ column := by
  rintro rfl
  have read := length_column_ofParts (Text.trimChars before) output
  have trimmed := Text.length_trimChars_le before
  omega

/-- What is trimmed and has no mark of a count is read as it is. -/
theorem ofParts_eq_iff {column : String} {source : List Char} (output : Option String) :
    (ofParts (Text.trimChars source) output).column = column ∧
        (ofParts (Text.trimChars source) output).count = false ↔
      Text.trimChars source = column.toList ∧ column.toList.head? ≠ some '#' := by
  constructor
  · rintro ⟨same, count⟩
    have noCount := count_ofParts count
    rw [ofParts_of_noCount noCount] at same
    obtain rfl : String.ofList (Text.trimChars source) = column := same
    rw [String.toList_ofList]
    exact ⟨rfl, noCount⟩
  · rintro ⟨same, noCount⟩
    rw [same, ofParts_of_noCount noCount]
    exact ⟨String.ofList_toList, rfl⟩

/-! ## A column by itself -/

theorem ofText_of_verbatim {column : String} (verbatim : Verbatim column) :
    ofText column = ⟨column, none, false⟩ := by
  rw [ofText_of_none (splitArrow_none verbatim.noArrow), trimChars_toList verbatim.trimmed,
    ofParts_of_noCount verbatim.noCount, String.ofList_toList]
  rfl

theorem ofText_eq_self_iff {column : String} :
    (ofText column).column = column ∧ (ofText column).count = false ↔ Verbatim column := by
  constructor
  · intro read
    by_cases arrow : ['-', '>'] <:+: column.toList
    · obtain ⟨before, after, split, shorter⟩ := splitArrow_infix arrow []
      rw [List.append_nil] at split
      rw [ofText_of_split split] at read
      exact absurd read.1 (column_ofParts_ne _ shorter)
    · rw [ofText_of_none (splitArrow_none arrow), ofParts_eq_iff] at read
      exact ⟨by rw [Text.trim, read.1, String.ofList_toList], arrow, read.2⟩
  · intro verbatim
    rw [ofText_of_verbatim verbatim]
    exact ⟨rfl, rfl⟩

theorem ofText_star : ofText "*" = ⟨"*", none, false⟩ := by decide

/-! ## A column under another name -/

/-- The entry that asks for a column, or for its count, under a name. -/
def entryText (count : Bool) (column name : String) : String :=
  (if count then "#" else "") ++ column ++ " -> " ++ name

theorem toList_entryText (count : Bool) (column name : String) :
    (entryText count column name).toList =
      ((if count then "#" else "") ++ column).toList ++ ' ' :: '-' :: '>' :: (' ' :: name.toList) := by
  simp [entryText]

theorem blank_of_mem : ∀ c ∈ [' '], Text.isBlank c = true := by
  intro c member
  obtain rfl := List.mem_singleton.mp member
  decide

theorem trimChars_blank_after (cs : List Char) :
    Text.trimChars (cs ++ [' ']) = Text.trimChars cs :=
  Text.trimChars_between [] cs [' '] (by simp) blank_of_mem

theorem trimChars_blank_before (cs : List Char) :
    Text.trimChars (' ' :: cs) = Text.trimChars cs := by
  have around := Text.trimChars_between [' '] cs [] blank_of_mem (by simp)
  rwa [List.append_nil] at around

theorem ofText_of_noArrow {count : Bool} {column : String} (name : String)
    (noArrow : ¬ ['-', '>'] <:+: ((if count then "#" else "") ++ column).toList) :
    ofText (entryText count column name) =
      ofParts (Text.trimChars ((if count then "#" else "") ++ column).toList)
        (some (Text.trim name)) := by
  have split := splitArrow_arrow _ (' ' :: name.toList) noArrow
  rw [← toList_entryText] at split
  rw [ofText_of_split split, trimChars_blank_after, trimChars_blank_before]
  rfl

theorem ofText_entryText {column name : String} (verbatim : Verbatim column)
    (trimmed : Text.trim name = name) (count : Bool) :
    ofText (entryText count column name) =
      ⟨column, if name = column then none else some name, count⟩ := by
  have filtered : (some name).filter (· != column) = if name = column then none else some name := by
    by_cases same : name = column
    · simp [same]
    · simp [same]
  cases count with
  | false =>
      have bare : (if false = true then "#" else "") ++ column = column := String.empty_append
      rw [ofText_of_noArrow name (by rw [bare]; exact verbatim.noArrow), bare, trimmed,
        trimChars_toList verbatim.trimmed, ofParts_of_noCount verbatim.noCount, String.ofList_toList,
        filtered]
  | true =>
      have marked : ((if true = true then "#" else "") ++ column).toList = '#' :: column.toList := by
        simp
      have noArrow : ¬ ['-', '>'] <:+: '#' :: column.toList := by
        intro arrow
        refine verbatim.noArrow ((List.infix_cons_iff.mp arrow).resolve_left fun front => ?_)
        obtain ⟨tail, shape⟩ := front
        cases shape
      have ends : Text.Trimmed ('#' :: column.toList) := by
        have inner := Text.Trimmed.of_trimChars (trimChars_toList verbatim.trimmed)
        constructor
        · intro c member
          obtain rfl : '#' = c := Option.some.inj member
          decide
        · intro c member
          cases none : column.toList with
          | nil =>
              rw [none] at member
              obtain rfl : '#' = c := Option.some.inj member
              decide
          | cons d rest =>
              rw [none, List.getLast?_cons_cons, ← none] at member
              exact inner.last c member
      rw [ofText_of_noArrow name (by rw [marked]; exact noArrow), marked, trimmed, ends.trimChars_eq]
      simp only [ofParts, String.ofList_toList, filtered]

theorem ofText_arrow {column name : String} (plain : IsPlainName column)
    (plainName : IsPlainName name) (differs : name ≠ column) :
    ofText (column ++ " -> " ++ name) = ⟨column, some name, false⟩ := by
  have read := ofText_entryText plain.verbatim plainName.trimmed false
  rw [if_neg differs] at read
  exact (congrArg ofText (by simp [entryText])).trans read

/-- The entry of a renamed column is read as such if the column is held as it is and the name has no
white space around it, and in no other case. -/
theorem ofText_entryText_iff {column name : String} (differs : name ≠ column) :
    ofText (entryText false column name) = ⟨column, some name, false⟩ ↔
      Verbatim column ∧ Text.trim name = name := by
  have bare : (if false = true then "#" else "") ++ column = column := String.empty_append
  constructor
  · intro read
    by_cases arrow : ['-', '>'] <:+: column.toList
    · obtain ⟨before, after, split, shorter⟩ :=
        splitArrow_infix arrow (' ' :: '-' :: '>' :: ' ' :: name.toList)
      have text := toList_entryText false column name
      rw [bare] at text
      rw [ofText_of_split (text ▸ split)] at read
      exact absurd (congrArg SelectField.column read) (column_ofParts_ne _ shorter)
    · rw [ofText_of_noArrow name (by rw [bare]; exact arrow), bare] at read
      have parts := @ofParts_eq_iff column column.toList (some (Text.trim name))
      rw [read] at parts
      obtain ⟨source, noCount⟩ := parts.mp ⟨rfl, rfl⟩
      rw [source, ofParts_of_noCount noCount, SelectField.mk.injEq] at read
      obtain ⟨kept, -⟩ := Option.filter_eq_some_iff.mp read.2.1
      exact ⟨⟨by rw [Text.trim, source, String.ofList_toList], arrow, noCount⟩, Option.some.inj kept⟩
  · rintro ⟨verbatim, trimmed⟩
    rw [ofText_entryText verbatim trimmed, if_neg differs]

end SelectField

end RecordMapper.Sql
