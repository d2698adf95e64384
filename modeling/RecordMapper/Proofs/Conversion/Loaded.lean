import RecordMapper.Proofs.Calendar.Printed
import RecordMapper.Proofs.Conversion
import RecordMapper.Proofs.Decimal.Written
import RecordMapper.Proofs.Json.Finite
import RecordMapper.Proofs.Json.Printed
import RecordMapper.Store.Search
/-! # Values that were read, and the texts they are indexed under

What a field reads from a cell is `NULL` or a value of its kind, whose leap seconds end a minute and whose
documents hold finite numbers (`Cell.loaded_of_fromStorage`).  NaN aside, two such values have one text if
and only if they are shown alike (`Value.Loaded.text_eq_iff`), which values that are equal are unless it
matters how they are written (`Value.Loaded.alike_iff`).  `NULL` is indexed like the text that is empty
(`Value.Loaded.indexKey_eq_iff`). -/
set_option autoImplicit false
namespace RecordMapper

open Calendar (Offset Timestamp)
open Decimal (Layout isNegative)

namespace Value

inductive Loaded (zone : Offset) : Kind → Value → Prop
  | null (kind : Kind) : Loaded zone kind .null
  | bool (b : Bool) : Loaded zone .bool (.bool b)
  | int (n : Int64) : Loaded zone .int (.int n)
  | float (x : Float) : Loaded zone .float (.float x)
  | str (s : String) : Loaded zone .string (.str s)
  | timestamp (t : Timestamp) (readable : t.Readable)
      (offset : t.offset = zone ∨ t.offset.seconds % 60 = 0) : Loaded zone .timestamp (.timestamp t)
  | json (document : Json) (finite : document.IsFinite) : Loaded zone .structured (.json document)

/-- The two are the same, or points in time that are shown alike. -/
def Alike : Value → Value → Prop
  | .timestamp s, .timestamp t => s.Alike t
  | u, v => u = v

def isNaN : Value → Bool
  | .float x => x.isNaN
  | .null | .bool _ | .int _ | .str _ | .timestamp _ | .json _ => false

/-- What equality does not see of a value: the signs of its floats, and the offset of a point in time. -/
def nuance : Value → List Bool × Option Offset
  | .float x => ([isNegative x], none)
  | .timestamp t => ([], some t.offset)
  | .json document => (document.signs, none)
  | .null | .bool _ | .int _ | .str _ => ([], none)

end Value

/-! ## Reading cells -/

theorem exists_of_map_ok {ε α β : Type} {f : α → β} {read : Except ε α} {b : β}
    (mapped : read.map f = .ok b) : ∃ a, b = f a := by
  cases read with
  | error fault => cases mapped
  | ok a => exact ⟨a, (Except.ok.inj mapped).symm⟩

theorem Cell.loaded_of_document {zone : Offset} {shown : String} {bytes : List UInt8} {value : Value}
    (read : document shown (Json.ofBytes bytes) = .ok value) : value.Loaded zone .structured := by
  cases here : Json.ofBytes bytes with
  | error fault =>
      rw [here] at read
      cases read
  | ok found =>
      rw [here] at read
      obtain rfl := Except.ok.inj read
      exact .json found (Json.isFinite_ofBytes here)

/-- Whatever cell is read, the value is one of the kind of the field. -/
theorem Cell.loaded_of_fromStorage {cell : Cell} {kind : Kind} {zone : Offset} {value : Value}
    (read : cell.fromStorage kind zone = .ok value) : value.Loaded zone kind := by
  rw [fromStorage.eq_def] at read
  split at read
  · obtain rfl := Except.ok.inj read
    exact .null kind
  · cases kind with
    | int =>
        obtain ⟨n, rfl⟩ := exists_of_map_ok read
        exact .int n
    | float =>
        obtain ⟨x, rfl⟩ := exists_of_map_ok read
        exact .float x
    | bool =>
        obtain rfl := Except.ok.inj read
        exact .bool _
    | string =>
        obtain rfl := Except.ok.inj read
        exact .str _
    | timestamp =>
        dsimp only at read
        split at read
        · next s _ =>
            obtain rfl := Except.ok.inj read
            cases here : Timestamp.ofText? s zone with
            | none => exact .null .timestamp
            | some t =>
                obtain ⟨readable, offset⟩ := Timestamp.readable_of_ofText? here
                exact .timestamp t readable offset
        · obtain rfl := Except.ok.inj read
          exact .null .timestamp
    | structured =>
        cases cell with
        | null =>
            obtain rfl := Except.ok.inj read
            exact .null .structured
        | int n =>
            obtain rfl := Except.ok.inj read
            exact .json _ (.number _ trivial)
        | float x =>
            obtain rfl := Except.ok.inj read
            refine .json _ ?_
            rw [Value.floatJson]
            split
            · next finite => exact .number _ finite
            · exact .null
        | str s => exact loaded_of_document read
        | binary bytes => exact loaded_of_document read

/-! ## Texts -/

namespace Value

theorem isNull_iff {value : Value} : value.isNull = true ↔ value = .null := by
  cases value with
  | null => exact ⟨fun _ => rfl, fun _ => rfl⟩
  | bool | int | float | str | timestamp | json =>
      exact ⟨fun impossible => (by cases impossible), fun impossible => (by cases impossible)⟩

theorem clear_floatLayout : floatLayout.Clear :=
  ⟨'i', rfl, by decide⟩

inductive Both (zone : Offset) : Value → Value → Prop
  | bool (a b : Bool) : Both zone (.bool a) (.bool b)
  | int (m n : Int64) : Both zone (.int m) (.int n)
  | float (x y : Float) : Both zone (.float x) (.float y)
  | str (s t : String) : Both zone (.str s) (.str t)
  | timestamp (s t : Timestamp) (readable : s.Readable) (readable' : t.Readable)
      (offset : s.offset = zone ∨ s.offset.seconds % 60 = 0)
      (offset' : t.offset = zone ∨ t.offset.seconds % 60 = 0) :
      Both zone (.timestamp s) (.timestamp t)
  | json (a b : Json) (finite : a.IsFinite) (finite' : b.IsFinite) : Both zone (.json a) (.json b)

namespace Loaded
variable {zone : Offset} {kind : Kind} {u v : Value}

theorem eq_of_text_eq_empty (loaded : u.Loaded zone kind) (number : u.isNaN = false)
    (empty : u.text = "") : u = .str "" := by
  have none : u.text.toList = [] := congrArg String.toList empty
  cases loaded with
  | null => exact absurd empty (by decide)
  | bool b => exact absurd empty (by cases b <;> decide)
  | int n => exact absurd none (Decimal.numeral_toString n.toInt).trimmed.2
  | float x =>
      obtain ⟨c, first, -⟩ := Layout.head_magnitude clear_floatLayout x
      have shape : (floatLayout.render x).toList = _ := floatLayout.toList_render number
      rw [text, shape, List.append_eq_nil_iff] at none
      rw [none.2] at first
      cases first
  | str s => rw [← empty, text]
  | timestamp t =>
      rw [text, Timestamp.rfc3339] at none
      simp at none
  | json document finite =>
      obtain ⟨c, rest, shape, -⟩ := Json.exists_chars finite
      rw [text, Json.text, String.toList_ofList, shape] at none
      cases none

theorem both (loaded : u.Loaded zone kind) (loaded' : v.Loaded zone kind) (present : u.isNull = false)
    (present' : v.isNull = false) : Both zone u v := by
  cases loaded with
  | null => cases present
  | bool a =>
      cases loaded' with
      | null => cases present'
      | bool b => exact .bool a b
  | int m =>
      cases loaded' with
      | null => cases present'
      | int n => exact .int m n
  | float x =>
      cases loaded' with
      | null => cases present'
      | float y => exact .float x y
  | str s =>
      cases loaded' with
      | null => cases present'
      | str t => exact .str s t
  | timestamp s readable offset =>
      cases loaded' with
      | null => cases present'
      | timestamp t readable' offset' => exact .timestamp s t readable readable' offset offset'
  | json a finite =>
      cases loaded' with
      | null => cases present'
      | json b finite' => exact .json a b finite finite'

end Loaded

namespace Both
variable {zone : Offset} {u v : Value}

theorem text_eq_iff (both : Both zone u v) (number : u.isNaN = false) (number' : v.isNaN = false) :
    u.text = v.text ↔ u.Alike v := by
  cases both with
  | timestamp s t readable readable' => exact Timestamp.rfc3339_eq_iff readable readable'
  | str s t =>
      show s = t ↔ Value.str s = .str t
      rw [Value.str.injEq]
  | bool a b =>
      show _ ↔ Value.bool a = .bool b
      rw [Value.bool.injEq]
      clear number number'
      revert a b
      decide
  | int m n =>
      show _ ↔ Value.int m = .int n
      rw [Value.int.injEq]
      constructor
      · exact fun same => Int64.toInt_inj.mp (Decimal.toString_injective same)
      · exact congrArg fun n => (Value.int n).text
  | float x y =>
      show _ ↔ Value.float x = .float y
      rw [Value.float.injEq]
      constructor
      · exact Layout.render_injective clear_floatLayout number number'
      · exact congrArg floatLayout.render
  | json a b finite finite' =>
      show _ ↔ Value.json a = .json b
      rw [Value.json.injEq]
      constructor
      · exact Json.text_injective finite finite'
      · exact congrArg Json.text

/-- In a zone of whole minutes, values are shown alike if they are equal, and written alike. -/
theorem alike_iff (both : Both zone u v) (minutes : zone.seconds % 60 = 0) (number : u.isNaN = false) :
    u.Alike v ↔ (u == v) = true ∧ u.nuance = v.nuance := by
  have whole {t : Timestamp} (offset : t.offset = zone ∨ t.offset.seconds % 60 = 0) :
      t.offset.seconds % 60 = 0 := by
    rcases offset with rfl | known
    · exact minutes
    · exact known
  show u.Alike v ↔ u.agrees v = true ∧ u.nuance = v.nuance
  cases both with
  | bool a b => simp [Alike, agrees, nuance]
  | int m n => simp [Alike, agrees, nuance]
  | str s t => simp [Alike, agrees, nuance]
  | float x y =>
      have told := Decimal.beq_and_sign_iff (y := y) number
      simp [Alike, agrees, nuance, told]
  | json a b finite =>
      have told := Json.agrees_and_signs_iff (b := b) finite
      simp [Alike, agrees, nuance, told]
  | timestamp s t readable readable' offset offset' =>
      have told := Timestamp.alike_iff (whole offset) (whole offset')
      simp [Alike, agrees, nuance, told]

end Both

namespace Loaded
variable {zone : Offset} {kind : Kind} {u v : Value}

/-- What is `NULL` is shown like nothing else. -/
theorem alike_null_iff (loaded : u.Loaded zone kind) : u.Alike .null ↔ u = .null := by
  cases loaded <;> simp [Alike]

theorem null_alike_iff (loaded : u.Loaded zone kind) : Value.null.Alike u ↔ u = .null := by
  cases loaded <;> simp [Alike]

/-- Two values of a field are indexed under one text if and only if they are shown alike, or one of them
is `NULL` and the other the empty text. -/
theorem indexKey_eq_iff (loaded : u.Loaded zone kind) (loaded' : v.Loaded zone kind)
    (number : u.isNaN = false) (number' : v.isNaN = false) :
    Store.indexKey u = Store.indexKey v ↔
      u.Alike v ∨ u = .null ∧ v = .str "" ∨ u = .str "" ∧ v = .null := by
  have shown {w : Value} (present : w.isNull = false) : Store.indexKey w = w.text := by
    rw [Store.indexKey, present]
    rfl
  cases present : u.isNull with
  | true =>
      obtain rfl := isNull_iff.mp present
      rw [null_alike_iff loaded']
      cases present' : v.isNull with
      | true =>
          obtain rfl := isNull_iff.mp present'
          simp
      | false =>
          rw [shown present']
          constructor
          · intro same
            exact .inr (.inl ⟨rfl, loaded'.eq_of_text_eq_empty number' same.symm⟩)
          · rintro (rfl | ⟨-, rfl⟩ | ⟨impossible, -⟩)
            · cases present'
            · rfl
            · cases impossible
  | false =>
      rw [shown present]
      cases present' : v.isNull with
      | true =>
          obtain rfl := isNull_iff.mp present'
          rw [alike_null_iff loaded]
          constructor
          · intro same
            exact .inr (.inr ⟨loaded.eq_of_text_eq_empty number same, rfl⟩)
          · rintro (rfl | ⟨rfl, -⟩ | ⟨rfl, -⟩)
            · cases present
            · cases present
            · rfl
      | false =>
          rw [shown present', (loaded.both loaded' present present').text_eq_iff number number']
          constructor
          · exact .inl
          · rintro (alike | ⟨rfl, -⟩ | ⟨-, rfl⟩)
            · exact alike
            · cases present
            · cases present'

/-- In a zone of whole minutes, the values of a field that are shown alike are those that are equal, and
written alike. -/
theorem alike_iff (minutes : zone.seconds % 60 = 0) (loaded : u.Loaded zone kind)
    (loaded' : v.Loaded zone kind) (number : u.isNaN = false) :
    u.Alike v ↔ (u == v) = true ∧ u.nuance = v.nuance := by
  cases present : u.isNull with
  | true =>
      obtain rfl := isNull_iff.mp present
      cases loaded' <;> simp [Alike, agrees, nuance, BEq.beq]
  | false =>
      cases present' : v.isNull with
      | true =>
          obtain rfl := isNull_iff.mp present'
          cases loaded <;> simp [Alike, agrees, nuance, BEq.beq]
      | false => exact (loaded.both loaded' present present').alike_iff minutes number

end Loaded

end Value

end RecordMapper
