import RecordMapper.Proofs.Decimal.Written
import RecordMapper.Proofs.Json.Document
import RecordMapper.Proofs.Json.Equality
/-! # Documents and their texts

Two documents of finite numbers have one text only if they are the same (`text_injective`).  A number
contains neither a comma nor a closing character, and one of these, or nothing, follows a document, so that
two documents are told apart wherever they stand (`IsFinite.told`). -/
set_option autoImplicit false
namespace RecordMapper.Json

open Decimal (Layout Numeric isNegative)

/-! ## Numbers -/

namespace Number

theorem toList_int (n : Int) :
    (Number.int n).text.toList = (if n < 0 then ['-'] else []) ++ Nat.toDigits 10 n.natAbs := by
  cases n with
  | ofNat n => exact Reader.text_natural n
  | negSucc n =>
      rw [if_pos (Int.negSucc_lt_zero n)]
      exact Reader.text_negative n

theorem toList_float {x : Float} (finite : x.isFinite = true) :
    (Number.float x).text.toList = (if isNegative x then ['-'] else []) ++
      (floatLayout.decimal ((Decimal.Binary.ofFloat x).shortest floatLayout.tie)).toList := by
  obtain ⟨number, bounded⟩ := Decimal.isFinite_iff.mp finite
  have plain : floatLayout.magnitude x =
      floatLayout.decimal ((Decimal.Binary.ofFloat x).shortest floatLayout.tie) :=
    if_neg (by simp [bounded])
  rw [text, Layout.toList_render _ number, plain]

theorem numeric_sign (negative : Prop) [Decidable negative] :
    ∀ c ∈ if negative then ['-'] else [], Numeric c := by
  intro c member
  split at member
  · exact .inr (List.mem_cons.mpr (.inl (List.mem_singleton.mp member)))
  · cases member

theorem numeric_text {n : Number} (finite : n.IsFinite) : ∀ c ∈ n.text.toList, Numeric c := by
  cases n with
  | int n =>
      rw [toList_int]
      exact List.forall_mem_append.mpr ⟨numeric_sign _, Decimal.numeric_toDigits⟩
  | float x =>
      rw [toList_float finite]
      exact List.forall_mem_append.mpr ⟨numeric_sign _, floatLayout.numeric_decimal _⟩

/-- No integer is written like a float. -/
theorem int_ne_float (n : Int) {x : Float} (finite : x.isFinite = true) :
    (Number.int n).text ≠ (Number.float x).text := by
  intro same
  obtain ⟨c, member, mark⟩ := floatLayout.marked_decimal rfl
    ((Decimal.Binary.ofFloat x).shortest floatLayout.tie)
  have inside : c ∈ (Number.int n).text.toList := by
    rw [same, toList_float finite]
    exact List.mem_append_right _ member
  rw [toList_int, List.mem_append] at inside
  rcases inside with sign | digit
  · split at sign
    · rw [List.mem_singleton.mp sign] at mark
      exact absurd mark (by decide)
    · cases sign
  · have digital := Decimal.isDigit_of_mem_toDigits digit
    rcases mark with rfl | rfl
    · exact absurd digital (by decide)
    · exact absurd digital (by decide)

theorem exists_signed (negative : Prop) [Decidable negative] {cs : List Char} {c : Char}
    (first : cs.head? = some c) (digit : c.isDigit = true) :
    ∃ d rest, (if negative then ['-'] else []) ++ cs = d :: rest ∧ (d.isDigit = true ∨ d = '-') := by
  by_cases sign : negative
  · rw [if_pos sign]
    exact ⟨'-', cs, rfl, .inr rfl⟩
  · obtain ⟨rest, rfl⟩ := List.head?_eq_some_iff.mp first
    rw [if_neg sign]
    exact ⟨c, rest, rfl, .inl digit⟩

theorem exists_text {n : Number} (finite : n.IsFinite) :
    ∃ c rest, n.text.toList = c :: rest ∧ (c.isDigit = true ∨ c = '-') := by
  cases n with
  | int n =>
      obtain ⟨d, rest, small, shape⟩ := Reader.toDigits_cons n.natAbs
      have digit : (Nat.digitChar d).isDigit = true := by
        apply Decimal.isDigit_of_mem_toDigits (n := n.natAbs)
        rw [shape]
        exact List.mem_cons_self ..
      rw [toList_int]
      exact exists_signed _ (by rw [shape]; rfl) digit
  | float x =>
      obtain ⟨c, first, digit⟩ := floatLayout.head_decimal
        ((Decimal.Binary.ofFloat x).shortest floatLayout.tie)
      rw [toList_float finite]
      exact exists_signed _ first digit

theorem clear_floatLayout : floatLayout.Clear :=
  ⟨'n', rfl, by decide⟩

theorem text_injective {m n : Number} (finite : m.IsFinite) (finite' : n.IsFinite)
    (same : m.text = n.text) : m = n := by
  cases m with
  | int m =>
      cases n with
      | int n => rw [Decimal.toString_injective same]
      | float y => exact absurd same (int_ne_float m finite')
  | float x =>
      cases n with
      | int n => exact absurd same.symm (int_ne_float n finite)
      | float y =>
          have number := (Decimal.isFinite_iff.mp finite).1
          have number' := (Decimal.isFinite_iff.mp finite').1
          rw [Layout.render_injective clear_floatLayout number number' same]

end Number

/-! ## Where documents end -/

/-- What follows a document: nothing, or more of what it stands in. -/
def Follows (rest : List Char) : Prop := ∀ c ∈ rest.head?, c = ',' ∨ c = ']' ∨ c = '\x7d'

theorem follows_nil : Follows [] := by
  intro c first
  cases first

theorem follows_cons {c : Char} (rest : List Char) (ends : c = ',' ∨ c = ']' ∨ c = '\x7d') :
    Follows (c :: rest) := by
  intro d first
  obtain rfl : c = d := Option.some.inj first
  exact ends

theorem Follows.ne_numeric {c : Char} {rest : List Char} (follows : Follows (c :: rest)) :
    ¬ Numeric c := by
  rcases follows c rfl with rfl | rfl | rfl <;> unfold Numeric <;> decide

/-- What follows a number is not of the number. -/
theorem numeric_cut {front other back rest : List Char} (all : ∀ c ∈ front, Numeric c)
    (all' : ∀ c ∈ other, Numeric c) (follows : Follows back) (follows' : Follows rest)
    (same : front ++ back = other ++ rest) : front = other ∧ back = rest := by
  induction front generalizing other with
  | nil =>
      cases other with
      | nil => exact ⟨rfl, same⟩
      | cons c other =>
          obtain rfl : back = c :: (other ++ rest) := same
          exact absurd (all' c (List.mem_cons_self ..)) follows.ne_numeric
  | cons c front ih =>
      cases other with
      | nil =>
          obtain rfl : c :: (front ++ back) = rest := same
          exact absurd (all c (List.mem_cons_self ..)) follows'.ne_numeric
      | cons d other =>
          obtain ⟨rfl, behind⟩ := List.cons.inj same
          obtain ⟨rfl, rest⟩ := ih (fun c member => all c (List.mem_cons_of_mem _ member))
            (fun c member => all' c (List.mem_cons_of_mem _ member)) behind
          exact ⟨rfl, rest⟩

/-- A string ends with the first quote that is not escaped. -/
theorem stringChars_cut {s t : String} {back rest : List Char}
    (same : stringChars s ++ back = stringChars t ++ rest) : s = t ∧ back = rest := by
  have shape : ∀ (s : String) (more : List Char), stringChars s ++ more =
      '"' :: (s.toList.flatMap escape ++ '"' :: more) := by
    intro s more
    simp [stringChars]
  have bytes : ∀ (s : String) (more : List Char), Text.encode (s.toList.flatMap escape ++ '"' :: more) =
      Text.encode (s.toList.flatMap escape) ++ '"'.toUInt8 :: Text.encode more := by
    intro s more
    rw [Text.encode_append, Text.encode_cons_ascii (by decide)]
  rw [shape, shape] at same
  have inside := congrArg Text.encode (List.cons.inj same).2
  rw [bytes, bytes] at inside
  have read := Reader.string_stringChars s (Text.encode back)
  rw [inside, Reader.string_stringChars] at read
  obtain rfl : t = s := congrArg Prod.fst (Except.ok.inj read)
  exact ⟨rfl, (List.cons.inj (List.append_cancel_left (List.cons.inj same).2)).2⟩

/-! ## Documents apart -/

def mark : Json → Char
  | .null => 'n'
  | .bool true => 't'
  | .bool false => 'f'
  | .number _ => '0'
  | .string _ => '"'
  | .array _ => '['
  | .object _ => '\x7b'

def markOf (c : Char) : Char := if c.isDigit || c == '-' then '0' else c

theorem exists_chars {document : Json} (finite : document.IsFinite) :
    ∃ c rest, document.chars = c :: rest ∧ markOf c = document.mark := by
  cases finite with
  | null => exact ⟨'n', _, rfl, rfl⟩
  | bool b =>
      cases b with
      | false => exact ⟨'f', _, rfl, rfl⟩
      | true => exact ⟨'t', _, rfl, rfl⟩
  | string s => exact ⟨'"', _, rfl, rfl⟩
  | array items => exact ⟨'[', _, rfl, rfl⟩
  | object members => exact ⟨'\x7b', _, rfl, rfl⟩
  | number n finite =>
      obtain ⟨c, rest, shape, first⟩ := Number.exists_text finite
      refine ⟨c, rest, shape, if_pos ?_⟩
      rcases first with digit | rfl
      · rw [digit, Bool.true_or]
      · rfl

theorem mark_eq {a b : Json} (finite : a.IsFinite) (finite' : b.IsFinite) {back rest : List Char}
    (same : a.chars ++ back = b.chars ++ rest) : a.mark = b.mark := by
  obtain ⟨c, more, shape, first⟩ := exists_chars finite
  obtain ⟨d, more', shape', first'⟩ := exists_chars finite'
  rw [shape, shape'] at same
  rw [← first, ← first', (List.cons.inj same).1]

/-- The document is told from all others by what is written up to its end. -/
def Told (a : Json) : Prop :=
  ∀ b : Json, b.IsFinite → ∀ back rest, Follows back → Follows rest →
    a.chars ++ back = b.chars ++ rest → a = b ∧ back = rest

def listed {α : Type} (write : α → List Char) : List α → List Char
  | [] => []
  | [item] => write item
  | item :: next :: rest => write item ++ ',' :: listed write (next :: rest)

theorem itemChars_eq (items : List Json) : itemChars items = listed chars items := by
  induction items with
  | nil => rfl
  | cons item rest ih =>
      cases rest with
      | nil => rfl
      | cons next rest => rw [itemChars, listed, ih]

def pairChars (member : String × Json) : List Char := stringChars member.1 ++ ':' :: member.2.chars

theorem memberChars_eq (members : List (String × Json)) :
    memberChars members = listed pairChars members := by
  induction members with
  | nil => rfl
  | cons member rest ih =>
      cases rest with
      | nil => rfl
      | cons next rest => rw [memberChars, listed, ih, pairChars]

section Listed
variable {α : Type} {write : α → List Char} {closing : Char}

theorem listed_cons (item : α) (rest : List α) (back : List Char) :
    listed write (item :: rest) ++ closing :: back = write item ++
      (if rest.isEmpty then closing :: back else ',' :: (listed write rest ++ closing :: back)) := by
  cases rest with
  | nil => rfl
  | cons next rest => simp [listed]

/-- Lists are told by what is written up to the end of them, if what is in them is told. -/
theorem listed_told (ends : closing = ']' ∨ closing = '\x7d') {items others : List α}
    (opens : ∀ item, item ∈ items ∨ item ∈ others → ∀ back rest, closing :: back ≠ write item ++ rest)
    (told : ∀ item ∈ items, ∀ other ∈ others, ∀ back rest, Follows back → Follows rest →
      write item ++ back = write other ++ rest → item = other ∧ back = rest) {back rest : List Char}
    (same : listed write items ++ closing :: back = listed write others ++ closing :: rest) :
    items = others ∧ back = rest := by
  have follows : ∀ (more : Bool) (back behind : List Char),
      Follows (if more then closing :: back else ',' :: behind) := by
    intro more back behind
    cases more with
    | true => exact follows_cons _ (.inr ends)
    | false => exact follows_cons _ (.inl rfl)
  have noComma : ',' ≠ closing := by
    rcases ends with rfl | rfl <;> decide
  induction items generalizing others with
  | nil =>
      cases others with
      | nil => exact ⟨rfl, (List.cons.inj same).2⟩
      | cons other others =>
          rw [listed_cons] at same
          exact absurd same (opens other (.inr (List.mem_cons_self ..)) _ _)
  | cons item items ih =>
      cases others with
      | nil =>
          rw [listed_cons] at same
          exact absurd same.symm (opens item (.inl (List.mem_cons_self ..)) _ _)
      | cons other others =>
          rw [listed_cons, listed_cons] at same
          obtain ⟨rfl, behind⟩ := told item (List.mem_cons_self ..) other (List.mem_cons_self ..) _ _
            (follows _ _ _) (follows _ _ _) same
          cases items with
          | nil =>
              cases others with
              | nil => exact ⟨rfl, (List.cons.inj behind).2⟩
              | cons next others => exact absurd (List.cons.inj behind).1.symm noComma
          | cons next items =>
              cases others with
              | nil => exact absurd (List.cons.inj behind).1 noComma
              | cons second others =>
                  obtain ⟨rest, back⟩ := ih
                    (fun item member => opens item
                      (member.imp (List.mem_cons_of_mem _) (List.mem_cons_of_mem _)))
                    (fun item member other there => told item (List.mem_cons_of_mem _ member) other
                      (List.mem_cons_of_mem _ there)) (List.cons.inj behind).2
                  exact ⟨by rw [rest], back⟩

end Listed

theorem items_told {items others : List Json} (told : ∀ item ∈ items, item.Told)
    (finite : ∀ item ∈ items, item.IsFinite) (finite' : ∀ item ∈ others, item.IsFinite)
    {back rest : List Char}
    (same : itemChars items ++ ']' :: back = itemChars others ++ ']' :: rest) :
    items = others ∧ back = rest := by
  rw [itemChars_eq, itemChars_eq] at same
  refine listed_told (.inl rfl) ?_ (fun item member other there => told item member other
    (finite' other there)) same
  intro item member back rest shown
  have number : item.IsFinite := member.elim (finite item) (finite' item)
  obtain ⟨c, more, shape, first⟩ := exists_chars number
  rw [shape, List.cons_append] at shown
  obtain ⟨rfl, -⟩ := List.cons.inj shown
  cases item with
  | bool b => cases b <;> cases first
  | null | number | string | array | object => cases first

theorem members_told {members others : List (String × Json)} (told : ∀ member ∈ members, member.2.Told)
    (finite' : ∀ member ∈ others, member.2.IsFinite) {back rest : List Char}
    (same : memberChars members ++ '\x7d' :: back = memberChars others ++ '\x7d' :: rest) :
    members = others ∧ back = rest := by
  rw [memberChars_eq, memberChars_eq] at same
  refine listed_told (.inr rfl) ?_ ?_ same
  · intro member _ back rest shown
    cases (List.cons.inj shown).1
  · intro member inside other there back rest follows follows' same
    rw [pairChars, pairChars, List.append_assoc, List.append_assoc] at same
    obtain ⟨names, behind⟩ := stringChars_cut same
    obtain ⟨values, back⟩ := told member inside other.2 (finite' other there) _ _ follows follows'
      (List.cons.inj behind).2
    exact ⟨Prod.ext names values, back⟩

theorem IsFinite.told {a : Json} (finite : a.IsFinite) : a.Told := by
  induction finite with
  | null =>
      intro b finite' back rest _ _ same
      have marks := mark_eq .null finite' same
      cases finite' with
      | null => exact ⟨rfl, List.append_cancel_left same⟩
      | bool b => cases b <;> cases marks
      | number | string | array | object => cases marks
  | bool a =>
      intro b finite' back rest _ _ same
      have marks := mark_eq (.bool a) finite' same
      cases finite' with
      | bool b =>
          obtain rfl : a = b := by cases a <;> cases b <;> simp_all [mark]
          exact ⟨rfl, List.append_cancel_left same⟩
      | null | number | string | array | object => cases a <;> cases marks
  | string s =>
      intro b finite' back rest _ _ same
      have marks := mark_eq (.string s) finite' same
      cases finite' with
      | string t =>
          obtain ⟨rfl, behind⟩ := stringChars_cut same
          exact ⟨rfl, behind⟩
      | bool b => cases b <;> cases marks
      | null | number | array | object => cases marks
  | number m finite =>
      intro b finite' back rest follows follows' same
      have marks := mark_eq (.number m finite) finite' same
      cases finite' with
      | number n finite' =>
          obtain ⟨text, behind⟩ := numeric_cut (Number.numeric_text finite)
            (Number.numeric_text finite') follows follows' same
          rw [Number.text_injective finite finite' (String.toList_inj.mp text)]
          exact ⟨rfl, behind⟩
      | bool b => cases b <;> cases marks
      | null | string | array | object => cases marks
  | array items each ih =>
      intro b finite' back rest _ _ same
      have marks := mark_eq (.array items each) finite' same
      cases finite' with
      | array others each' =>
          have inside : itemChars items ++ ']' :: back = itemChars others ++ ']' :: rest := by
            simpa [chars] using same
          obtain ⟨rfl, behind⟩ := items_told ih each each' inside
          exact ⟨rfl, behind⟩
      | bool b => cases b <;> cases marks
      | null | number | string | object => cases marks
  | object members each ih =>
      intro b finite' back rest _ _ same
      have marks := mark_eq (.object members each) finite' same
      cases finite' with
      | object others each' =>
          have inside : memberChars members ++ '\x7d' :: back = memberChars others ++ '\x7d' :: rest := by
            simpa [chars] using same
          obtain ⟨rfl, behind⟩ := members_told ih each' inside
          exact ⟨rfl, behind⟩
      | bool b => cases b <;> cases marks
      | null | number | string | array => cases marks

/-- Two documents have one text only if they are the same. -/
theorem text_injective {a b : Json} (finite : a.IsFinite) (finite' : b.IsFinite)
    (same : a.text = b.text) : a = b := by
  have chars := String.ofList_injective same
  refine (finite.told b finite' [] [] follows_nil follows_nil ?_).1
  rw [chars]

end RecordMapper.Json
