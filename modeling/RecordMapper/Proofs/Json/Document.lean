import RecordMapper.Json.Reader.Document
import RecordMapper.Proofs.Json.Number
import RecordMapper.Proofs.Json.String
import RecordMapper.Proofs.SortedMap
/-! # Documents read back

`ofText_text`: a document whose numbers are whole and which is not nested too deep is read back from
its text.  The induction is on what makes it readable; the lists inside it are read by the reader of
their items, which the induction hypothesis speaks of. -/
set_option autoImplicit false
namespace RecordMapper.Json

open Text (encode encode_append encode_cons_ascii)

/-- The document holds no numbers but those of 64 bits, and opens at most `depth` arrays and objects
inside one another. -/
inductive Readable : Nat → Json → Prop
  | null (depth : Nat) : Readable depth .null
  | bool (depth : Nat) (b : Bool) : Readable depth (.bool b)
  | natural (depth n : Nat) (fits : n ≤ 0xFFFFFFFFFFFFFFFF) : Readable depth (.number (.int n))
  | negative (depth n : Nat) (fits : n < 0x8000000000000000) :
      Readable depth (.number (.int (Int.negSucc n)))
  | string (depth : Nat) (s : String) : Readable depth (.string s)
  | array (depth : Nat) (items : List Json) (each : ∀ item ∈ items, Readable depth item) :
      Readable (depth + 1) (.array items)
  | object (depth : Nat) (members : List (String × Json)) (sorted : SortedMap.Sorted members)
      (each : ∀ member ∈ members, Readable depth member.2) : Readable (depth + 1) (.object members)

namespace Reader

def EndsDocument (rest : List UInt8) : Prop :=
  ∀ b ∈ rest.head?, b = ','.toUInt8 ∨ b = ']'.toUInt8 ∨ b = '\x7d'.toUInt8

theorem EndsDocument.endsNumber {rest : List UInt8} (ends : EndsDocument rest) :
    EndsNumber rest := by
  intro b member
  rcases ends b member with rfl | rfl | rfl
  · decide
  · decide
  · decide

theorem endsDocument_nil : EndsDocument [] := by
  intro b member
  simp at member

theorem endsDocument_cons {b : UInt8} (rest : List UInt8)
    (ends : b = ','.toUInt8 ∨ b = ']'.toUInt8 ∨ b = '\x7d'.toUInt8) : EndsDocument (b :: rest) := by
  intro c member
  obtain rfl : b = c := by simpa using member
  exact ends

/-- The reader reads the document in front of more of what it stands in. -/
def Reads (item : Reader Json) (document : Json) : Prop :=
  ∀ rest, EndsDocument rest → item (encode document.chars ++ rest) = .ok (document, rest)

def Begins (bytes : List UInt8) : Prop :=
  ∃ b rest, bytes = b :: rest ∧ isSpace b = false ∧ b ≠ ']'.toUInt8 ∧ b ≠ '\x7d'.toUInt8

theorem encode_enclosed {opening closing : Char} (ascii : opening.toNat < 0x80 ∧ closing.toNat < 0x80)
    (inside : List Char) (rest : List UInt8) : encode (opening :: inside ++ [closing]) ++ rest =
      opening.toUInt8 :: (encode inside ++ closing.toUInt8 :: rest) := by
  rw [List.cons_append, encode_cons_ascii ascii.1, encode_append, encode_cons_ascii ascii.2,
    List.cons_append, List.append_assoc]
  rfl

theorem begins_ascii {c : Char} (cs : List Char) (first : c.toNat < 0x80 ∧
    isSpace c.toUInt8 = false ∧ c.toUInt8 ≠ ']'.toUInt8 ∧ c.toUInt8 ≠ '\x7d'.toUInt8) :
    Begins (encode (c :: cs)) :=
  ⟨c.toUInt8, encode cs, encode_cons_ascii first.1 cs, first.2⟩

theorem Begins.append {bytes : List UInt8} (begins : Begins bytes) (more : List UInt8) :
    Begins (bytes ++ more) := by
  obtain ⟨b, rest, rfl, free⟩ := begins
  exact ⟨b, rest ++ more, rfl, free⟩

theorem skipSpace_cons {b : UInt8} (rest : List UInt8) (noSpace : isSpace b = false) :
    skipSpace (b :: rest) = b :: rest := by
  rw [skipSpace, List.dropWhile_cons_of_neg]
  simp [noSpace]

/-! ## Where documents begin -/

theorem begins_digitChar {d : Nat} (small : d < 10) (cs : List Char) :
    Begins (encode (Nat.digitChar d :: cs)) := by
  have free : ∀ d < 10, isSpace (Nat.digitChar d).toUInt8 = false ∧
      (Nat.digitChar d).toUInt8 ≠ ']'.toUInt8 ∧ (Nat.digitChar d).toUInt8 ≠ '\x7d'.toUInt8 := by
    decide
  exact ⟨_, _, encode_digitChar d small cs, free d small⟩

theorem toDigits_cons (n : Nat) :
    ∃ d rest, d < 10 ∧ Nat.toDigits 10 n = Nat.digitChar d :: rest := by
  rcases Nat.eq_zero_or_pos n with rfl | positive
  · exact ⟨0, [], by decide, Nat.toDigits_zero 10⟩
  · obtain ⟨d, rest, -, small, shape⟩ := Decimal.toDigits_lead positive
    exact ⟨d, rest, small, shape⟩

theorem begins_stringChars (s : String) (cs : List Char) :
    Begins (encode (stringChars s ++ cs)) :=
  begins_ascii _ (by decide)

theorem begins_chars {depth : Nat} {document : Json} (readable : Readable depth document) :
    Begins (encode document.chars) := by
  cases readable with
  | null => exact begins_ascii _ (by decide)
  | bool _ b =>
      cases b with
      | false => exact begins_ascii _ (by decide)
      | true => exact begins_ascii _ (by decide)
  | natural _ n =>
      obtain ⟨d, rest, small, shape⟩ := toDigits_cons n
      rw [chars, text_natural, shape]
      exact begins_digitChar small rest
  | negative _ n =>
      rw [chars, text_negative]
      exact begins_ascii _ (by decide)
  | string _ s =>
      exact begins_ascii _ (by decide)
  | array => exact begins_ascii _ (by decide)
  | object => exact begins_ascii _ (by decide)

theorem begins_itemChars {items : List Json} (some' : items ≠ [])
    (begins : ∀ item ∈ items, Begins (encode item.chars)) : Begins (encode (itemChars items)) := by
  cases items with
  | nil => exact absurd rfl some'
  | cons item rest =>
      have first := begins item (List.mem_cons_self ..)
      cases rest with
      | nil => exact first
      | cons next rest =>
          rw [itemChars, encode_append]
          exact first.append _

theorem begins_memberChars {members : List (String × Json)} (some' : members ≠ []) :
    Begins (encode (memberChars members)) := by
  cases members with
  | nil => exact absurd rfl some'
  | cons member rest =>
      obtain ⟨name, value⟩ := member
      cases rest with
      | nil => exact begins_stringChars name _
      | cons next rest =>
          rw [memberChars, List.append_assoc]
          exact begins_stringChars name _

/-! ## Lists -/

theorem items_itemChars (item : Reader Json) (documents : List Json) (some' : documents ≠ [])
    (begins : ∀ document ∈ documents, Begins (encode document.chars))
    (reads : ∀ document ∈ documents, Reads item document) (steps : Nat)
    (enough : (encode (itemChars documents)).length < steps) (rest : List UInt8) :
    items item steps (encode (itemChars documents) ++ ']'.toUInt8 :: rest) =
      .ok (documents, rest) := by
  induction documents generalizing steps with
  | nil => exact absurd rfl some'
  | cons document others ih =>
      have here := reads document (List.mem_cons_self ..)
      obtain ⟨steps, rfl⟩ := Nat.exists_eq_succ_of_ne_zero (Nat.ne_zero_of_lt enough)
      cases others with
      | nil =>
          have first := here (']'.toUInt8 :: rest) (endsDocument_cons _ (by decide))
          rw [itemChars, items, first]
          rfl
      | cons next others =>
          have laterBegins : Begins (encode (itemChars (next :: others))) :=
            begins_itemChars (List.cons_ne_nil _ _)
              fun other member => begins other (List.mem_cons_of_mem _ member)
          rw [itemChars, encode_append, encode_cons_ascii (by decide)] at enough ⊢
          rw [List.length_append, List.length_cons] at enough
          have later := ih (List.cons_ne_nil _ _)
            (fun other member => begins other (List.mem_cons_of_mem _ member))
            (fun other member => reads other (List.mem_cons_of_mem _ member)) steps (by omega)
          have first := here
            (','.toUInt8 :: (encode (itemChars (next :: others)) ++ ']'.toUInt8 :: rest))
            (endsDocument_cons _ (by decide))
          rw [List.append_assoc, List.cons_append, items, first]
          obtain ⟨b, tail, shape, noSpace, noBracket, -⟩ := laterBegins.append (']'.toUInt8 :: rest)
          rw [shape] at later ⊢
          have comma : skipSpace (','.toUInt8 :: b :: tail) = ','.toUInt8 :: b :: tail := rfl
          have noEnd : ','.toUInt8 ≠ ']'.toUInt8 := by decide
          simp only [bind, Except.bind, comma, noEnd, if_false, if_true, skipSpace_cons tail noSpace,
            noBracket, later]
          rfl

theorem array_itemChars (item : Reader Json) (documents : List Json)
    (begins : ∀ document ∈ documents, Begins (encode document.chars))
    (reads : ∀ document ∈ documents, Reads item document) (rest : List UInt8) :
    array item (encode (itemChars documents) ++ ']'.toUInt8 :: rest) = .ok (documents, rest) := by
  by_cases none : documents = []
  · subst none
    rfl
  · have all := items_itemChars item documents none begins reads
      (encode (itemChars documents) ++ ']'.toUInt8 :: rest).length
      (by rw [List.length_append, List.length_cons]; omega) rest
    obtain ⟨b, tail, shape, noSpace, noBracket, -⟩ :=
      (begins_itemChars none begins).append (']'.toUInt8 :: rest)
    rw [shape] at all ⊢
    simp only [array, skipSpace_cons tail noSpace, noBracket, if_false]
    exact all

theorem member_chars (item : Reader Json) (name : String) (document : Json)
    (reads : Reads item document) {rest : List UInt8} (ends : EndsDocument rest) :
    member item (encode (stringChars name ++ ':' :: document.chars) ++ rest) =
      .ok ((name, document), rest) := by
  have value := reads rest ends
  have text := string_stringChars name (':'.toUInt8 :: (encode document.chars ++ rest))
  have colon : skipSpace (':'.toUInt8 :: (encode document.chars ++ rest)) =
      ':'.toUInt8 :: (encode document.chars ++ rest) := rfl
  have bytes : encode (stringChars name ++ ':' :: document.chars) ++ rest = '"'.toUInt8 ::
      (encode (name.toList.flatMap escape) ++
        '"'.toUInt8 :: ':'.toUInt8 :: (encode document.chars ++ rest)) := by
    rw [encode_append, List.append_assoc, stringChars, encode_enclosed (by decide),
      encode_cons_ascii (by decide)]
    rfl
  rw [bytes]
  simp only [member, if_true, text, bind, Except.bind, colon, value]
  rfl

theorem members_memberChars (item : Reader Json) (pairs : List (String × Json))
    (some' : pairs ≠ []) (reads : ∀ pair ∈ pairs, Reads item pair.2) (steps : Nat)
    (enough : (encode (memberChars pairs)).length < steps) (rest : List UInt8) :
    members item steps (encode (memberChars pairs) ++ '\x7d'.toUInt8 :: rest) =
      .ok (pairs, rest) := by
  induction pairs generalizing steps with
  | nil => exact absurd rfl some'
  | cons pair others ih =>
      obtain ⟨name, document⟩ := pair
      have here := reads (name, document) (List.mem_cons_self ..)
      obtain ⟨steps, rfl⟩ := Nat.exists_eq_succ_of_ne_zero (Nat.ne_zero_of_lt enough)
      cases others with
      | nil =>
          have first := member_chars item name document here
            (endsDocument_cons ('\x7d'.toUInt8 :: rest).tail (b := '\x7d'.toUInt8) (by decide))
          rw [memberChars, members]
          rw [List.tail_cons] at first
          rw [first]
          rfl
      | cons next others =>
          rw [memberChars, encode_append, encode_cons_ascii (by decide)] at enough ⊢
          rw [List.length_append, List.length_cons] at enough
          have later := ih (List.cons_ne_nil _ _)
            (fun other member => reads other (List.mem_cons_of_mem _ member)) steps (by omega)
          have first := member_chars item name document here (endsDocument_cons
            (encode (memberChars (next :: others)) ++ '\x7d'.toUInt8 :: rest) (b := ','.toUInt8)
            (by decide))
          rw [List.append_assoc, List.cons_append, members, first]
          obtain ⟨b, tail, shape, noSpace, -, noBrace⟩ :=
            (begins_memberChars (List.cons_ne_nil next others)).append ('\x7d'.toUInt8 :: rest)
          rw [shape] at later ⊢
          have comma : skipSpace (','.toUInt8 :: b :: tail) = ','.toUInt8 :: b :: tail := rfl
          have noEnd : ','.toUInt8 ≠ '\x7d'.toUInt8 := by decide
          simp only [bind, Except.bind, comma, noEnd, if_false, if_true, skipSpace_cons tail noSpace,
            noBrace, later]
          rfl

theorem object_memberChars (item : Reader Json) (pairs : List (String × Json))
    (reads : ∀ pair ∈ pairs, Reads item pair.2) (rest : List UInt8) :
    object item (encode (memberChars pairs) ++ '\x7d'.toUInt8 :: rest) = .ok (pairs, rest) := by
  by_cases none : pairs = []
  · subst none
    rfl
  · have all := members_memberChars item pairs none reads
      (encode (memberChars pairs) ++ '\x7d'.toUInt8 :: rest).length
      (by rw [List.length_append, List.length_cons]; omega) rest
    obtain ⟨b, tail, shape, noSpace, -, noBrace⟩ :=
      (begins_memberChars none).append ('\x7d'.toUInt8 :: rest)
    rw [shape] at all ⊢
    simp only [object, skipSpace_cons tail noSpace, noBrace, if_false]
    exact all

/-! ## Documents -/

def made {α : Type} (make : α → Json) (read : Except Stop (α × List UInt8)) :
    Except Stop (Json × List UInt8) :=
  read >>= fun found => pure (make found.1, found.2)

theorem value_digit (depth : Nat) {d : Nat} (small : d < 10) (rest : List UInt8) :
    value depth ((Nat.digitChar d).toUInt8 :: rest) =
      made .number (number false ((Nat.digitChar d).toUInt8 :: rest)) := by
  have others : ∀ d < 10, isSpace (Nat.digitChar d).toUInt8 = false ∧
      (Nat.digitChar d).toUInt8 ≠ 'n'.toUInt8 ∧ (Nat.digitChar d).toUInt8 ≠ 't'.toUInt8 ∧
      (Nat.digitChar d).toUInt8 ≠ 'f'.toUInt8 ∧ (Nat.digitChar d).toUInt8 ≠ '-'.toUInt8 := by
    decide
  obtain ⟨noSpace, noNull, noTrue, noFalse, noMinus⟩ := others d small
  rw [value, skipSpace_cons rest noSpace]
  simp only [noNull, noTrue, noFalse, noMinus, if_false, isDigit_digitChar small, if_true]
  rfl

theorem value_reads {depth : Nat} {document : Json} (readable : Readable depth document) :
    Reads (value depth) document := by
  induction readable with
  | null depth =>
      intro rest _
      rw [value]
      rfl
  | bool depth b =>
      intro rest _
      cases b with
      | false =>
          rw [value]
          rfl
      | true =>
          rw [value]
          rfl
  | natural depth n fits =>
      intro rest ends
      have read := number_toDigits false (Nat.le_trans fits (by decide)) ends.endsNumber
      obtain ⟨d, digits, small, shape⟩ := toDigits_cons n
      rw [shape, encode_digitChar d small, List.cons_append, whole_natural] at read
      rw [chars, text_natural, shape, encode_digitChar d small, List.cons_append,
        value_digit depth small, read]
      rfl
  | negative depth n fits =>
      intro rest ends
      have read := number_toDigits true (n := n + 1) (Nat.le_trans fits (by decide)) ends.endsNumber
      rw [whole_negative fits] at read
      rw [chars, text_negative, encode_cons_ascii (by decide), List.cons_append]
      have minus : value depth ('-'.toUInt8 :: (encode (Nat.toDigits 10 (n + 1)) ++ rest)) =
          made .number (number true (encode (Nat.toDigits 10 (n + 1)) ++ rest)) := by
        rw [value]
        rfl
      rw [minus, read]
      rfl
  | string depth s =>
      intro rest _
      have read := string_stringChars s rest
      have bytes : encode (stringChars s) ++ rest =
          '"'.toUInt8 :: (encode (s.toList.flatMap escape) ++ '"'.toUInt8 :: rest) :=
        encode_enclosed (by decide) _ rest
      have quote : value depth
          ('"'.toUInt8 :: (encode (s.toList.flatMap escape) ++ '"'.toUInt8 :: rest)) =
          made .string (string (encode (s.toList.flatMap escape) ++ '"'.toUInt8 :: rest)) := by
        rw [value]
        rfl
      rw [chars, bytes, quote, read]
      rfl
  | array depth items each reads =>
      intro rest _
      have begins := fun item member => begins_chars (each item member)
      have read := array_itemChars (value depth) items begins reads rest
      have bytes : encode (Json.array items).chars ++ rest =
          '['.toUInt8 :: (encode (itemChars items) ++ ']'.toUInt8 :: rest) :=
        encode_enclosed (by decide) _ rest
      have bracket : value (depth + 1)
          ('['.toUInt8 :: (encode (itemChars items) ++ ']'.toUInt8 :: rest)) =
          made .array (array (value depth) (encode (itemChars items) ++ ']'.toUInt8 :: rest)) := rfl
      rw [bytes, bracket, read]
      rfl
  | object depth members sorted each reads =>
      intro rest _
      have read := object_memberChars (value depth) members reads rest
      have bytes : encode (Json.object members).chars ++ rest =
          '\x7b'.toUInt8 :: (encode (memberChars members) ++ '\x7d'.toUInt8 :: rest) :=
        encode_enclosed (by decide) _ rest
      have brace : value (depth + 1)
          ('\x7b'.toUInt8 :: (encode (memberChars members) ++ '\x7d'.toUInt8 :: rest)) =
          made ofMembers
            (object (value depth) (encode (memberChars members) ++ '\x7d'.toUInt8 :: rest)) := rfl
      rw [bytes, brace, read]
      show Except.ok (Json.object (SortedMap.ofList members), rest) = _
      rw [SortedMap.ofList_sorted members sorted]

end Reader

theorem ofText_text {document : Json} (readable : Readable Reader.depthMax document) :
    ofText document.text = .ok document := by
  have read := Reader.value_reads readable [] Reader.endsDocument_nil
  rw [List.append_nil] at read
  rw [ofText, Text.toBytes_eq_encode, text, String.toList_ofList, ofBytes, read]
  rfl

end RecordMapper.Json
