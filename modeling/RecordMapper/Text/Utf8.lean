/-! # UTF-8

A text's bytes, and the text of a byte sequence.  `ofBytes?` accepts well-formed sequences only.
`decodeLossy` reads any sequence: each longest part that begins a character but does not finish it
becomes one replacement character, and so does each byte that begins none.  `wellFormedLength` is
where an ill-formed sequence goes wrong. -/
set_option autoImplicit false
namespace RecordMapper.Text

def toBytes (s : String) : List UInt8 := s.toUTF8.data.toList

def ofBytes? (bytes : List UInt8) : Option String := String.fromUTF8? ⟨bytes.toArray⟩

theorem ofBytes?_toBytes (s : String) : ofBytes? (toBytes s) = some s := by
  simp only [ofBytes?, toBytes, String.toUTF8_eq_toByteArray, Array.toArray_toList,
    String.fromUTF8?, dif_pos s.isValidUTF8]
  rfl

/-- What the first byte of a character calls for: the number of bytes that follow, the range of
the first of them, and the bits that the first byte itself contributes. -/
structure Lead where
  following : Nat
  low : UInt8
  high : UInt8
  bits : Nat

/-- No lead byte is a continuation byte, begins an overlong form or a surrogate, or leads past the
last code point. -/
def Lead.ofByte? (b : UInt8) : Option Lead :=
  if b < 0x80 then some ⟨0, 0x80, 0xBF, b.toNat⟩
  else if b < 0xC2 then none
  else if b < 0xE0 then some ⟨1, 0x80, 0xBF, b.toNat % 32⟩
  else if b == 0xE0 then some ⟨2, 0xA0, 0xBF, b.toNat % 16⟩
  else if b == 0xED then some ⟨2, 0x80, 0x9F, b.toNat % 16⟩
  else if b < 0xF0 then some ⟨2, 0x80, 0xBF, b.toNat % 16⟩
  else if b == 0xF0 then some ⟨3, 0x90, 0xBF, b.toNat % 8⟩
  else if b < 0xF4 then some ⟨3, 0x80, 0xBF, b.toNat % 8⟩
  else if b == 0xF4 then some ⟨3, 0x80, 0x8F, b.toNat % 8⟩
  else none

/-- The longest run of at most `n` continuation bytes at the front; `low` and `high` bound the
first of them. -/
def continuation : Nat → UInt8 → UInt8 → List UInt8 → List UInt8
  | n + 1, low, high, b :: rest =>
    if low ≤ b && b ≤ high then b :: continuation n 0x80 0xBF rest else []
  | _, _, _, _ => []

/-- What stands at the front of a byte sequence: a character, or the beginning of one that is not
finished, or a byte that begins none; and how many bytes after the first one belong to it. -/
structure Front where
  char? : Option Char
  following : Nat

def front (b : UInt8) (rest : List UInt8) : Front :=
  match Lead.ofByte? b with
  | none => ⟨none, 0⟩
  | some lead =>
    let tail := continuation lead.following lead.low lead.high rest
    if tail.length = lead.following then
      let code := tail.foldl (fun code byte => code * 64 + byte.toNat % 64) lead.bits
      ⟨some (Char.ofNat code), tail.length⟩
    else ⟨none, tail.length⟩

def wellFormedLength : List UInt8 → Nat
  | [] => 0
  | b :: rest =>
    if (front b rest).char?.isSome then
      (front b rest).following + 1 + wellFormedLength (rest.drop (front b rest).following)
    else 0
termination_by bytes => bytes.length
decreasing_by simp only [List.length_drop, List.length_cons]; omega

example : wellFormedLength [0x61, 0xC3, 0xA9, 0xE2, 0x82, 0x78] = 3 ∧
    wellFormedLength [0xED, 0xA0, 0x80] = 0 ∧ wellFormedLength [0xF0, 0x9F, 0x98, 0x80] = 4 := by
  decide +kernel

theorem length_continuation_le (n : Nat) (low high : UInt8) (bytes : List UInt8) :
    (continuation n low high bytes).length ≤ bytes.length := by
  fun_induction continuation n low high bytes with
  | case1 n low high b rest inRange ih => simpa using ih
  | case2 => simp
  | case3 => simp

theorem following_front_le (b : UInt8) (rest : List UInt8) :
    (front b rest).following ≤ rest.length := by
  unfold front
  split
  · exact Nat.zero_le _
  · next lead _ =>
    have tailLength := length_continuation_le lead.following lead.low lead.high rest
    dsimp only
    split <;> exact tailLength

theorem wellFormedLength_le (bytes : List UInt8) : wellFormedLength bytes ≤ bytes.length := by
  fun_induction wellFormedLength bytes with
  | case1 => exact Nat.le_refl _
  | case2 b rest found ih =>
    have followingLength := following_front_le b rest
    rw [List.length_drop] at ih
    rw [List.length_cons]
    omega
  | case3 => exact Nat.zero_le _

def replacement : Char := Char.ofNat 0xFFFD

def decodeChars : List UInt8 → List Char
  | [] => []
  | b :: rest =>
    (front b rest).char?.getD replacement :: decodeChars (rest.drop (front b rest).following)
termination_by bytes => bytes.length
decreasing_by simp only [List.length_drop, List.length_cons]; omega

/-- The text of any byte sequence, with replacement characters where it is ill formed. -/
def decodeLossy (bytes : List UInt8) : String := String.ofList (decodeChars bytes)

end RecordMapper.Text
