import RecordMapper.Calendar.Reader
import RecordMapper.Cell
import RecordMapper.Decimal.Literal
import RecordMapper.Json.Reader.Document
import RecordMapper.Kind
import RecordMapper.Value
/-! # Between values and cells

`toStorage` is the cell in which a field of a given kind stores a value, and `fromStorage` the value
of a cell that is read into such a field.  `NULL` passes through both.  Stored timestamps are text
in a fixed zone; text that is no timestamp is read as `NULL`.  `toParam` is the parameter of a value
that stands in a condition, where no kind is known. -/
set_option autoImplicit false
namespace RecordMapper

open Calendar (Offset Timestamp)

inductive Mismatch
  | notNumber
  | notInstant
  | literal (fault : Decimal.LiteralFault)
  | document (fault : Json.Fault)
deriving DecidableEq

def Mismatch.message : Mismatch → String
  | .notNumber => "not a number"
  | .notInstant => "not a point in time"
  | .literal fault => fault.message
  | .document fault => fault.message

structure ConversionFault where
  value : String
  kind : Kind
  reason : Mismatch
deriving DecidableEq

def ConversionFault.message (fault : ConversionFault) : String :=
  "cannot convert `" ++ fault.value ++ "` to " ++ fault.kind.tag ++ ": " ++ fault.reason.message

def saturated (n : Int) : Int64 := Int64.ofIntClamp n

/-- A float without its fraction, as an integer; infinities and NaN are none. -/
def wholeOf? (x : Float) : Option Int64 :=
  if x.isFinite then some (saturated (Decimal.truncated x)) else none

namespace Value

def toInt (value : Value) : Except ConversionFault Int64 :=
  let refused (s : String) := Except.error ⟨s, .int, .notNumber⟩
  match value with
  | .int n => .ok n
  | .float x => (wholeOf? x).elim (refused value.text) .ok
  | .bool b => .ok (if b then 1 else 0)
  | .str s =>
    let s := Text.trim s
    match Decimal.int64? s with
    | some n => .ok n
    | none => ((Decimal.float s).toOption.bind wholeOf?).elim (refused s) .ok
  | _ => refused value.text

def toFloat (value : Value) : Except ConversionFault Float :=
  match value with
  | .float x => .ok x
  | .int n => .ok (Float.ofInt n.toInt)
  | .bool b => .ok (if b then 1.0 else 0.0)
  | .str s => (Decimal.float (Text.trim s)).mapError fun fault => ⟨s, .float, .literal fault⟩
  | _ => .error ⟨value.text, .float, .notNumber⟩

def isTruthy : Value → Bool
  | .null => false
  | .bool b => b
  | .int n => n != 0
  | .float x => x != 0.0
  | .str s => !(s.isEmpty || s == "0")
  | .timestamp _ => true
  | .json document => !document.isNull

def toStorage (value : Value) (kind : Kind) (zone : Offset) : Except ConversionFault Cell :=
  if value.isNull then .ok .null
  else match kind with
    | .int => value.toInt.map .int
    | .float => value.toFloat.map .float
    | .bool => .ok (Cell.ofBool value.isTruthy)
    | .string => .ok (.str value.text)
    | .timestamp =>
      match value with
      | .timestamp t => .ok (.str (t.stored zone))
      | _ => .error ⟨value.text, .timestamp, .notInstant⟩
    | .structured => .ok (.str value.toJson.text)

/-- The parameter that binds a value of a condition.  `NULL` is never bound. -/
def toParam (value : Value) (zone : Offset) : Option Param :=
  match value with
  | .null => none
  | .bool b => some (Cell.ofBool b).param
  | .int n => some (Cell.int n).param
  | .float x => some (Cell.float x).param
  | .str s => some (Cell.str s).param
  | .timestamp t => some (Cell.str (t.stored zone)).param
  | .json document => some (Cell.str document.text).param

end Value

namespace Cell

def toValue : Cell → Value
  | .null => .null
  | .int n => .int n
  | .float x => .float x
  | .str s => .str s
  | .binary bytes => .str (Text.decodeLossy bytes)

def document (shown : String) (read : Except Json.Fault Json) : Except ConversionFault Value :=
  match read with
  | .ok document => .ok (.json document)
  | .error fault => .error ⟨shown, .structured, .document fault⟩

def fromStorage (cell : Cell) (kind : Kind) (zone : Offset) : Except ConversionFault Value :=
  if cell.isNull then .ok .null
  else match kind with
    | .int => cell.toValue.toInt.map .int
    | .float => cell.toValue.toFloat.map .float
    | .bool => .ok (.bool cell.toValue.isTruthy)
    | .string => .ok (.str cell.toValue.text)
    | .timestamp =>
      match cell.toValue with
      | .str s => .ok ((Timestamp.ofText? s zone).elim .null .timestamp)
      | _ => .ok .null
    | .structured =>
      match cell with
      | .null => .ok .null
      | .int n => .ok (.json (.number (.int n.toInt)))
      | .float x => .ok (.json (Value.floatJson x))
      | .str s => document s (Json.ofText s)
      | .binary bytes => document (Text.decodeLossy bytes) (Json.ofBytes bytes)

end Cell

end RecordMapper
