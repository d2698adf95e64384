import RecordMapper.Text.Utf8
/-! # The bytes of characters

A text's bytes are those of its characters one after another (`toBytes_eq_encode`).  An ASCII character
is one byte of its own code; every byte of any other character is at least 0x80, so that no such byte
is mistaken for an ASCII character. -/
set_option autoImplicit false
namespace RecordMapper.Text

def encode (cs : List Char) : List UInt8 := cs.flatMap String.utf8EncodeChar

theorem encode_nil : encode [] = [] := rfl

theorem encode_cons (c : Char) (cs : List Char) :
    encode (c :: cs) = String.utf8EncodeChar c ++ encode cs := List.flatMap_cons

theorem encode_append (front back : List Char) :
    encode (front ++ back) = encode front ++ encode back := List.flatMap_append

theorem toBytes_eq_encode (s : String) : toBytes s = encode s.toList := by
  rw [toBytes, String.toUTF8_eq_toByteArray, ← String.utf8Encode_toList]
  exact List.toList_data_toByteArray

theorem toBytes_injective {s t : String} (bytes : toBytes s = toBytes t) : s = t := by
  have read := ofBytes?_toBytes s
  rw [bytes, ofBytes?_toBytes] at read
  exact (Option.some.inj read).symm

theorem ofBytes?_encode (cs : List Char) : ofBytes? (encode cs) = some (String.ofList cs) := by
  have bytes := toBytes_eq_encode (String.ofList cs)
  rw [String.toList_ofList] at bytes
  rw [← bytes, ofBytes?_toBytes]

theorem utf8EncodeChar_ascii {c : Char} (ascii : c.toNat < 0x80) :
    String.utf8EncodeChar c = [c.toUInt8] := by
  have code : c.val.toNat ≤ 0x7f := Nat.le_of_lt_succ ascii
  simp only [String.utf8EncodeChar, if_pos code]
  rfl

theorem encode_cons_ascii {c : Char} (ascii : c.toNat < 0x80) (cs : List Char) :
    encode (c :: cs) = c.toUInt8 :: encode cs := by
  rw [encode_cons, utf8EncodeChar_ascii ascii]
  rfl

theorem utf8EncodeChar_high {c : Char} (high : 0x80 ≤ c.toNat) :
    ∀ b ∈ String.utf8EncodeChar c, 0x80 ≤ b := by
  have least : ∀ low lead : Nat, 0x80 ≤ lead → low + lead < 256 →
      (0x80 : UInt8) ≤ UInt8.ofNat (low + lead) := by
    intro low lead far fits
    rw [UInt8.le_iff_toNat_le, UInt8.toNat_ofNat', Nat.mod_eq_of_lt fits]
    exact Nat.le_trans far (Nat.le_add_left _ _)
  intro b member
  have code : ¬ c.val.toNat ≤ 0x7f := Nat.not_le.mpr high
  simp only [String.utf8EncodeChar, if_neg code] at member
  split at member
  · simp only [List.mem_cons, List.not_mem_nil, or_false] at member
    rcases member with rfl | rfl
    · exact least _ _ (by decide) (by omega)
    · exact least _ _ (by decide) (by omega)
  · split at member
    · simp only [List.mem_cons, List.not_mem_nil, or_false] at member
      rcases member with rfl | rfl | rfl
      · exact least _ _ (by decide) (by omega)
      · exact least _ _ (by decide) (by omega)
      · exact least _ _ (by decide) (by omega)
    · simp only [List.mem_cons, List.not_mem_nil, or_false] at member
      rcases member with rfl | rfl | rfl | rfl
      · exact least _ _ (by decide) (by omega)
      · exact least _ _ (by decide) (by omega)
      · exact least _ _ (by decide) (by omega)
      · exact least _ _ (by decide) (by omega)

end RecordMapper.Text
