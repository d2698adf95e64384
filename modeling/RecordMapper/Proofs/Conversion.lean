import RecordMapper.Conversion
import RecordMapper.Proofs.Calendar.Stored
import RecordMapper.Proofs.Json.Document
/-! # Values and back

A value that fits a kind has a cell in a field of that kind, and the cell is read back as the same
value (`Value.Fits.restored`). -/
set_option autoImplicit false
namespace RecordMapper

open Calendar (Offset Timestamp)

/-- The value is `NULL` or of the variant of the kind, and its cell holds all of it: a timestamp to
the microsecond, a document of whole numbers that is not nested too deep. -/
inductive Value.Fits (zone : Offset) : Kind → Value → Prop
  | null (kind : Kind) : Value.Fits zone kind .null
  | int (n : Int64) : Value.Fits zone .int (.int n)
  | float (x : Float) : Value.Fits zone .float (.float x)
  | bool (b : Bool) : Value.Fits zone .bool (.bool b)
  | str (s : String) : Value.Fits zone .string (.str s)
  | timestamp (t : Timestamp) (storable : t.Storable zone) (micros : t.nanos % 1000 = 0) :
      Value.Fits zone .timestamp (.timestamp t)
  | json (document : Json) (readable : Json.Readable Json.Reader.depthMax document) :
      Value.Fits zone .structured (.json document)

/-- The values are equal; timestamps may be shown in different zones. -/
inductive Value.Same : Value → Value → Prop
  | refl (value : Value) : Value.Same value value
  | instant (s t : Timestamp) (same : s.sameInstant t = true) :
      Value.Same (.timestamp s) (.timestamp t)

theorem Value.toStorage_null (kind : Kind) (zone : Offset) :
    Value.null.toStorage kind zone = .ok .null := rfl

theorem Cell.fromStorage_null (kind : Kind) (zone : Offset) :
    Cell.null.fromStorage kind zone = .ok .null := rfl

theorem Cell.isTruthy_ofBool (b : Bool) : (Cell.ofBool b).toValue.isTruthy = b := by
  cases b with
  | false => decide
  | true => decide

theorem Calendar.Timestamp.sameInstant_toMicros {t : Timestamp} (zone : Offset)
    (micros : t.nanos % 1000 = 0) : t.sameInstant (t.toMicros zone) = true := by
  have nanos : t.nanos / 1000 * 1000 = t.nanos := by omega
  simp [Timestamp.sameInstant, Timestamp.toMicros, nanos]

theorem Value.Fits.restored {zone : Offset} {kind : Kind} {value : Value}
    (minutes : zone.seconds % 60 = 0) (fits : value.Fits zone kind) :
    ∃ cell restored, value.toStorage kind zone = .ok cell ∧
      cell.fromStorage kind zone = .ok restored ∧ value.Same restored := by
  cases fits with
  | null => exact ⟨.null, .null, toStorage_null kind zone, Cell.fromStorage_null kind zone, .refl _⟩
  | int n => exact ⟨.int n, .int n, rfl, rfl, .refl _⟩
  | float x => exact ⟨.float x, .float x, rfl, rfl, .refl _⟩
  | bool b =>
      refine ⟨Cell.ofBool b, .bool b, rfl, ?_, .refl _⟩
      show Except.ok (Value.bool (Cell.ofBool b).toValue.isTruthy) = _
      rw [Cell.isTruthy_ofBool]
  | str s => exact ⟨.str s, .str s, rfl, rfl, .refl _⟩
  | timestamp t storable micros =>
      have read := Timestamp.ofText?_stored storable minutes
      refine ⟨.str (t.stored zone), .timestamp (t.toMicros zone), ?_, ?_,
        .instant _ _ (Timestamp.sameInstant_toMicros zone micros)⟩
      · simp only [toStorage, isNull, Bool.false_eq_true, if_false]
      · simp only [Cell.fromStorage, Cell.isNull, Cell.toValue, Bool.false_eq_true, if_false, read,
          Option.elim_some]
  | json document readable =>
      have read := Json.ofText_text readable
      refine ⟨.str document.text, .json document, ?_, ?_, .refl _⟩
      · simp only [toStorage, isNull, toJson, Bool.false_eq_true, if_false]
      · simp only [Cell.fromStorage, Cell.isNull, Cell.document, Bool.false_eq_true, if_false, read]

end RecordMapper
