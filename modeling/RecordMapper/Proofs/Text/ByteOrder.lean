import Mathlib.Algebra.Group.Nat.Defs
import RecordMapper.Proofs.Text.Utf8
/-! # Texts in the order of their bytes

The order of texts is that of their code points, and it is also the order of their bytes
(`toBytes_lt`).  The first byte of a character tells how many follow, and it grows with the code; among
characters with the same first byte the bytes that follow are the digits of the rest of the code
(`lead_order`, `trail_lt`). -/
set_option autoImplicit false
namespace RecordMapper.Text

/-! ## The bytes of a code -/

def trailing (code : Nat) : Nat :=
  if code ≤ 0x7F then 0 else if code ≤ 0x7FF then 1 else if code ≤ 0xFFFF then 2 else 3

def lead (code : Nat) : Nat :=
  if code ≤ 0x7F then code
  else if code ≤ 0x7FF then code / 64 + 0xC0
  else if code ≤ 0xFFFF then code / 4096 + 0xE0
  else code / 262144 + 0xF0

/-- The last `n` digits of a code to base 64, as bytes that continue a character. -/
def trail : Nat → Nat → List UInt8
  | 0, _ => []
  | n + 1, code => UInt8.ofNat (code / 64 ^ n % 64 + 0x80) :: trail n code

theorem utf8EncodeChar_eq (c : Char) :
    String.utf8EncodeChar c =
      UInt8.ofNat (lead c.toNat) :: trail (trailing c.toNat) c.toNat := by
  have valid := c.valid
  simp only [UInt32.isValidChar, Nat.isValidChar] at valid
  have same : c.val.toNat = c.toNat := rfl
  rw [String.utf8EncodeChar.eq_def, lead, trailing]
  rw [same] at valid ⊢
  generalize c.toNat = code at valid ⊢
  by_cases one : code ≤ 0x7F
  · simp [one, trail]
  · by_cases two : code ≤ 0x7FF
    · have small : code / 64 % 32 = code / 64 := by omega
      simp [one, two, trail, small]
    · by_cases three : code ≤ 0xFFFF
      · have small : code / 4096 % 16 = code / 4096 := by omega
        simp [one, two, three, trail, small]
      · have small : code / 262144 % 8 = code / 262144 := by omega
        simp [one, two, three, trail, small]

/-! ## The order of codes -/

theorem lead_cases (code : Nat) :
    (code ≤ 0x7F ∧ trailing code = 0 ∧ lead code = code) ∨
      (0x7F < code ∧ code ≤ 0x7FF ∧ trailing code = 1 ∧ lead code = code / 64 + 0xC0) ∨
      (0x7FF < code ∧ code ≤ 0xFFFF ∧ trailing code = 2 ∧ lead code = code / 4096 + 0xE0) ∨
      (0xFFFF < code ∧ trailing code = 3 ∧ lead code = code / 262144 + 0xF0) := by
  rw [trailing, lead]
  by_cases one : code ≤ 0x7F
  · simp [one]
  · by_cases two : code ≤ 0x7FF
    · simp [one, two, Nat.lt_of_not_le one]
    · by_cases three : code ≤ 0xFFFF
      · simp [one, two, three, Nat.lt_of_not_le two]
      · simp [one, two, three, Nat.lt_of_not_le three]

theorem lead_lt_byte {code : Nat} (valid : code < 0x110000) : lead code < 256 := by
  have cases := lead_cases code
  omega

/-- Of two codes, the less one has the lesser first byte, or else the same first byte and the lesser
rest. -/
theorem lead_order {m n : Nat} (less : m < n) :
    lead m < lead n ∨
      lead m = lead n ∧ trailing m = trailing n ∧
        m % 64 ^ trailing m < n % 64 ^ trailing m := by
  have other := lead_cases n
  obtain ⟨most, width, first⟩ | ⟨least, most, width, first⟩ | ⟨least, most, width, first⟩ |
    ⟨least, width, first⟩ := lead_cases m
  all_goals
    rw [width, first]
    omega

theorem ofNat_lt_ofNat {m n : Nat} (less : m < n) (byte : n < 256) :
    UInt8.ofNat m < UInt8.ofNat n := by
  rw [UInt8.lt_iff_toNat_lt, UInt8.toNat_ofNat', UInt8.toNat_ofNat']
  omega

theorem trail_lt {n a b : Nat} (less : a % 64 ^ n < b % 64 ^ n) (back behind : List UInt8) :
    trail n a ++ back < trail n b ++ behind := by
  induction n with
  | zero => simp [Nat.mod_one] at less
  | succ n ih =>
      rw [trail, trail, List.cons_append, List.cons_append, List.cons_lt_cons_iff]
      rw [Nat.mod_pow_succ, Nat.mod_pow_succ] at less
      have digit : b / 64 ^ n % 64 < 64 := Nat.mod_lt _ (by decide)
      by_cases same : a / 64 ^ n % 64 = b / 64 ^ n % 64
      · right
        rw [same] at less ⊢
        exact ⟨rfl, ih (by omega)⟩
      · left
        apply ofNat_lt_ofNat _ (by omega)
        apply Nat.add_lt_add_right
        apply Nat.lt_of_le_of_ne _ same
        apply Nat.le_of_not_lt
        intro greater
        have small : b % 64 ^ n < 64 ^ n := Nat.mod_lt _ (Nat.pow_pos (by decide))
        have above := Nat.mul_le_mul_left (64 ^ n) (Nat.succ_le_of_lt greater)
        rw [Nat.mul_succ] at above
        omega

/-! ## The order of texts -/

theorem utf8EncodeChar_lt {c d : Char} (less : c < d) (back behind : List UInt8) :
    String.utf8EncodeChar c ++ back < String.utf8EncodeChar d ++ behind := by
  have codes : c.toNat < d.toNat := less
  have byte : lead d.toNat < 256 := by
    apply lead_lt_byte
    have valid := d.valid
    simp only [UInt32.isValidChar, Nat.isValidChar] at valid
    have same : d.val.toNat = d.toNat := rfl
    omega
  rw [utf8EncodeChar_eq, utf8EncodeChar_eq, List.cons_append, List.cons_append,
    List.cons_lt_cons_iff]
  rcases lead_order codes with first | ⟨same, width, rest⟩
  · exact .inl (ofNat_lt_ofNat first byte)
  · right
    rw [same, ← width]
    exact ⟨rfl, trail_lt rest back behind⟩

theorem encode_lt {cs ds : List Char} (less : cs < ds) : encode cs < encode ds := by
  induction cs generalizing ds with
  | nil =>
      cases ds with
      | nil => exact absurd less (List.lt_irrefl _)
      | cons d ds =>
          rw [encode_cons, utf8EncodeChar_eq]
          exact List.nil_lt_cons _ _
  | cons c cs ih =>
      cases ds with
      | nil => exact absurd less (List.not_lt_nil _)
      | cons d ds =>
          rw [encode_cons, encode_cons]
          rcases List.cons_lt_cons_iff.mp less with first | ⟨rfl, rest⟩
          · exact utf8EncodeChar_lt first _ _
          · exact List.append_left_lt (ih rest)

theorem toBytes_lt {s t : String} (less : s < t) : toBytes s < toBytes t := by
  rw [toBytes_eq_encode, toBytes_eq_encode]
  exact encode_lt less

end RecordMapper.Text
