import RecordMapper.Json.Printer
import RecordMapper.Json.Reader.String
import RecordMapper.Proofs.Text.Utf8
/-! # Strings read back

A string is written with its quotes, backslashes and control characters escaped.  `stringBytes_escape`
is what one character comes to in the bytes of the text, `string_stringChars` that the whole string is
read back. -/
set_option autoImplicit false
namespace RecordMapper.Json.Reader

open Text (encode encode_append encode_cons_ascii)

def IsPlain (b : UInt8) : Prop := b ≠ '"'.toUInt8 ∧ b ≠ '\\'.toUInt8 ∧ ¬ b < 0x20

/-- What is read of a string in front of more of it. -/
def before (content : List UInt8) (read : Except Stop (List UInt8 × List UInt8)) :
    Except Stop (List UInt8 × List UInt8) :=
  read.map fun more => (content ++ more.1, more.2)

theorem stringBytes_plain (bytes more : List UInt8) (steps : Nat)
    (plain : ∀ b ∈ bytes, IsPlain b) :
    stringBytes (bytes.length + steps) (bytes ++ more) =
      before bytes (stringBytes steps more) := by
  induction bytes with
  | nil =>
      rw [List.length_nil, Nat.zero_add, List.nil_append]
      cases stringBytes steps more <;> rfl
  | cons b rest ih =>
      obtain ⟨noQuote, noBackslash, noControl⟩ := plain b (List.mem_cons_self ..)
      have there := ih fun other member => plain other (List.mem_cons_of_mem b member)
      have length : (b :: rest).length + steps = (rest.length + steps) + 1 := by
        rw [List.length_cons]
        omega
      rw [length, List.cons_append, stringBytes, if_neg noQuote, if_neg noBackslash,
        if_neg noControl, there]
      cases stringBytes steps more <;> rfl

theorem stringBytes_backslash (escaped content : List UInt8) (more : List UInt8) (steps : Nat)
    (read : escapeBytes (escaped ++ more) = .ok (content, more)) :
    stringBytes (steps + 1) ('\\'.toUInt8 :: (escaped ++ more)) =
      before content (stringBytes steps more) := by
  rw [stringBytes, if_neg (by decide), if_pos rfl, read]
  dsimp only [bind, Except.bind]
  cases stringBytes steps more <;> rfl

theorem hexDigit?_digitChar (d : Nat) (small : d < 16) :
    hexDigit? (Nat.digitChar d).toUInt8 = some d := by
  revert d
  decide

theorem escapeBytes_control (c : Char) (control : c.toNat < 0x20) (more : List UInt8) :
    escapeBytes (encode ['u', '0', '0', Nat.digitChar (c.toNat / 16), Nat.digitChar (c.toNat % 16)] ++
      more) = .ok (String.utf8EncodeChar c, more) := by
  have ascii : ∀ d < 16, (Nat.digitChar d).toNat < 0x80 := by decide
  have first := hexDigit?_digitChar (c.toNat / 16) (by omega)
  have second := hexDigit?_digitChar (c.toNat % 16) (by omega)
  have zero : hexDigit? '0'.toUInt8 = some 0 := by decide
  have code : ((0 * 16 + 0) * 16 + c.toNat / 16) * 16 + c.toNat % 16 = c.toNat := by omega
  have bytes : encode ['u', '0', '0', Nat.digitChar (c.toNat / 16), Nat.digitChar (c.toNat % 16)] =
      ['u'.toUInt8, '0'.toUInt8, '0'.toUInt8, (Nat.digitChar (c.toNat / 16)).toUInt8,
        (Nat.digitChar (c.toNat % 16)).toUInt8] := by
    rw [encode_cons_ascii (by decide), encode_cons_ascii (by decide), encode_cons_ascii (by decide),
      encode_cons_ascii (ascii _ (by omega)), encode_cons_ascii (ascii _ (by omega))]
    rfl
  have unit : hexUnit ('0'.toUInt8 :: '0'.toUInt8 :: (Nat.digitChar (c.toNat / 16)).toUInt8 ::
      (Nat.digitChar (c.toNat % 16)).toUInt8 :: more) = .ok (c.toNat, more) := by
    simp only [hexUnit, first, second, zero, code]
  have noTrailing : isTrailing c.toNat = false := by
    simp only [isTrailing, Bool.and_eq_false_iff, decide_eq_false_iff_not]
    omega
  have noLeading : isLeading c.toNat = false := by
    simp only [isLeading, Bool.and_eq_false_iff, decide_eq_false_iff_not]
    omega
  have read : codeEscape ('0'.toUInt8 :: '0'.toUInt8 :: (Nat.digitChar (c.toNat / 16)).toUInt8 ::
      (Nat.digitChar (c.toNat % 16)).toUInt8 :: more) = .ok (String.utf8EncodeChar c, more) := by
    simp only [codeEscape, unit, bind, Except.bind, noTrailing, noLeading, Bool.false_eq_true,
      if_false, Bool.not_false, if_true, encoded, Char.ofNat_toNat]
    rfl
  rw [bytes]
  exact read

theorem isPlain_of_high {b : UInt8} (high : 0x80 ≤ b) : IsPlain b := by
  refine ⟨?_, ?_, ?_⟩
  · rintro rfl
    exact absurd high (by decide)
  · rintro rfl
    exact absurd high (by decide)
  · intro low
    exact absurd (UInt8.lt_of_le_of_lt high low) (by decide)

theorem isPlain_utf8EncodeChar {c : Char} (noQuote : c ≠ '"') (noBackslash : c ≠ '\\')
    (noControl : ¬ c.toNat < 0x20) : ∀ b ∈ String.utf8EncodeChar c, IsPlain b := by
  intro b member
  by_cases ascii : c.toNat < 0x80
  · have byte : c.toUInt8.toNat = c.toNat := by
      show c.toNat % 256 = c.toNat
      omega
    have differs : ∀ d : Char, d.toNat < 0x80 → c ≠ d → c.toUInt8 ≠ d.toUInt8 := by
      intro d small other same
      have codes := congrArg UInt8.toNat same
      have code : d.toUInt8.toNat = d.toNat := by
        show d.toNat % 256 = d.toNat
        omega
      rw [byte, code] at codes
      exact other (Char.toNat_inj.mp codes)
    rw [Text.utf8EncodeChar_ascii ascii] at member
    obtain rfl := List.mem_singleton.mp member
    refine ⟨differs '"' (by decide) noQuote, differs '\\' (by decide) noBackslash, fun low => ?_⟩
    rw [UInt8.lt_iff_toNat_lt, byte] at low
    exact noControl low
  · exact isPlain_of_high (Text.utf8EncodeChar_high (Nat.not_lt.mp ascii) b member)

theorem stringBytes_shortEscape (c letter : Char) (ascii : letter.toNat < 0x80)
    (written : escape c = ['\\', letter])
    (read : ∀ more, escapeBytes (letter.toUInt8 :: more) = .ok (String.utf8EncodeChar c, more))
    (steps : Nat) (more : List UInt8) :
    stringBytes (1 + steps) (encode (escape c) ++ more) =
      before (String.utf8EncodeChar c) (stringBytes steps more) := by
  have bytes : encode (escape c) = '\\'.toUInt8 :: [letter.toUInt8] := by
    rw [written, encode_cons_ascii (by decide), encode_cons_ascii ascii]
    rfl
  rw [bytes, Nat.add_comm]
  exact stringBytes_backslash [letter.toUInt8] _ more steps (read more)

/-- Reading what is written for a character takes no more steps than it has bytes. -/
theorem stringBytes_escape (c : Char) :
    ∃ used, used ≤ (encode (escape c)).length ∧ ∀ steps more,
      stringBytes (used + steps) (encode (escape c) ++ more) =
        before (String.utf8EncodeChar c) (stringBytes steps more) := by
  by_cases quote : c = '"'
  · subst quote
    exact ⟨1, by decide, stringBytes_shortEscape '"' '"' (by decide) (by decide) fun _ => rfl⟩
  by_cases backslash : c = '\\'
  · subst backslash
    exact ⟨1, by decide, stringBytes_shortEscape '\\' '\\' (by decide) (by decide) fun _ => rfl⟩
  by_cases newline : c = '\n'
  · subst newline
    exact ⟨1, by decide, stringBytes_shortEscape '\n' 'n' (by decide) (by decide) fun _ => rfl⟩
  by_cases return' : c = '\r'
  · subst return'
    exact ⟨1, by decide, stringBytes_shortEscape '\r' 'r' (by decide) (by decide) fun _ => rfl⟩
  by_cases tab : c = '\t'
  · subst tab
    exact ⟨1, by decide, stringBytes_shortEscape '\t' 't' (by decide) (by decide) fun _ => rfl⟩
  by_cases back : c = '\x08'
  · subst back
    exact ⟨1, by decide, stringBytes_shortEscape '\x08' 'b' (by decide) (by decide) fun _ => rfl⟩
  by_cases feed : c = '\x0c'
  · subst feed
    exact ⟨1, by decide, stringBytes_shortEscape '\x0c' 'f' (by decide) (by decide) fun _ => rfl⟩
  by_cases control : c.toNat < 0x20
  · have written : escape c =
        ['\\', 'u', '0', '0', Nat.digitChar (c.toNat / 16), Nat.digitChar (c.toNat % 16)] := by
      simp only [escape, quote, backslash, newline, return', tab, back, feed, control, if_true,
        if_false]
    refine ⟨1, ?_, fun steps more => ?_⟩
    · rw [written, encode_cons_ascii (by decide), List.length_cons]
      omega
    · rw [written, encode_cons_ascii (by decide), Nat.add_comm, List.cons_append]
      exact stringBytes_backslash _ _ more steps (escapeBytes_control c control more)
  · have written : escape c = [c] := by
      simp only [escape, quote, backslash, newline, return', tab, back, feed, control, if_false]
    have bytes : encode (escape c) = String.utf8EncodeChar c := by
      rw [written, Text.encode_cons, Text.encode_nil, List.append_nil]
    refine ⟨(encode (escape c)).length, Nat.le_refl _, fun steps more => ?_⟩
    rw [bytes]
    exact stringBytes_plain _ more steps (isPlain_utf8EncodeChar quote backslash control)

/-- The closing quote has to be within the steps as well. -/
theorem stringBytes_chars (cs : List Char) (steps : Nat) (rest : List UInt8)
    (enough : (encode (cs.flatMap escape)).length < steps) :
    stringBytes steps (encode (cs.flatMap escape) ++ '"'.toUInt8 :: rest) =
      .ok (encode cs, rest) := by
  induction cs generalizing steps with
  | nil =>
      obtain ⟨more, rfl⟩ := Nat.exists_eq_add_of_lt enough
      rfl
  | cons c cs ih =>
      obtain ⟨used, short, step⟩ := stringBytes_escape c
      rw [List.flatMap_cons, encode_append] at enough ⊢
      rw [List.length_append] at enough
      obtain ⟨left, rfl⟩ : ∃ left, steps = used + left := ⟨steps - used, by omega⟩
      rw [List.append_assoc, step, ih left (by omega), Text.encode_cons]
      rfl

theorem string_stringChars (s : String) (rest : List UInt8) :
    string (encode (s.toList.flatMap escape) ++ '"'.toUInt8 :: rest) = .ok (s, rest) := by
  have content := stringBytes_chars s.toList
    (encode (s.toList.flatMap escape) ++ '"'.toUInt8 :: rest).length rest
    (by rw [List.length_append, List.length_cons]; omega)
  have whole := Text.ofBytes?_encode s.toList
  rw [String.ofList_toList] at whole
  rw [string, content]
  dsimp only [bind, Except.bind]
  rw [whole]
  rfl

end RecordMapper.Json.Reader
