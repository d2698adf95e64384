import RecordMapper.Json.Reader.Basic
import RecordMapper.Text.Utf8
/-! # Reading strings

Escapes are resolved byte by byte; whether the bytes are UTF-8 is looked at when the string is
complete.  If not, the fault is placed at the first ill-formed byte by counting back from the end of
the string, where an escape counts as the bytes that it stands for. -/
set_option autoImplicit false
namespace RecordMapper.Json.Reader

def hexDigit? (b : UInt8) : Option Nat :=
  if isDigit b then some (digit b)
  else if 'a'.toUInt8 ≤ b && b ≤ 'f'.toUInt8 then some ((b - 'a'.toUInt8).toNat + 10)
  else if 'A'.toUInt8 ≤ b && b ≤ 'F'.toUInt8 then some ((b - 'A'.toUInt8).toNat + 10)
  else none

def hexUnit : Reader Nat
  | a :: b :: c :: d :: rest =>
    match hexDigit? a, hexDigit? b, hexDigit? c, hexDigit? d with
    | some a, some b, some c, some d => .ok (((a * 16 + b) * 16 + c) * 16 + d, rest)
    | _, _, _, _ => .error ⟨.invalidEscape, rest⟩
  | _ => .error ⟨.endOfString, []⟩

def isTrailing (unit : Nat) : Bool := 0xDC00 ≤ unit && unit ≤ 0xDFFF

def isLeading (unit : Nat) : Bool := 0xD800 ≤ unit && unit ≤ 0xDBFF

def encoded (code : Nat) : List UInt8 := String.utf8EncodeChar (Char.ofNat code)

def pairByte (expected : UInt8) : List UInt8 → Except Stop (List UInt8)
  | [] => .error ⟨.endOfString, []⟩
  | b :: rest => if b = expected then .ok rest else .error ⟨.unfinishedPair, rest⟩

def codeEscape : Reader (List UInt8) := fun bytes => do
  let (first, rest) ← hexUnit bytes
  if isTrailing first then .error ⟨.loneSurrogate, rest⟩
  else if !isLeading first then pure (encoded first, rest)
  else
    let rest ← pairByte '\\'.toUInt8 rest
    let rest ← pairByte 'u'.toUInt8 rest
    let (second, rest) ← hexUnit rest
    if isTrailing second then
      pure (encoded ((first - 0xD800) * 0x400 + (second - 0xDC00) + 0x10000), rest)
    else .error ⟨.loneSurrogate, rest⟩

def escapeBytes : Reader (List UInt8)
  | [] => .error ⟨.endOfString, []⟩
  | b :: rest =>
    if b = '"'.toUInt8 || b = '\\'.toUInt8 || b = '/'.toUInt8 then .ok ([b], rest)
    else if b = 'b'.toUInt8 then .ok ([0x08], rest)
    else if b = 'f'.toUInt8 then .ok ([0x0C], rest)
    else if b = 'n'.toUInt8 then .ok ([0x0A], rest)
    else if b = 'r'.toUInt8 then .ok ([0x0D], rest)
    else if b = 't'.toUInt8 then .ok ([0x09], rest)
    else if b = 'u'.toUInt8 then codeEscape rest
    else .error ⟨.invalidEscape, rest⟩

/-- The bytes of a string up to its closing quote, escapes resolved.  Each step reads at least one
byte, so that as many steps as there are bytes are enough. -/
def stringBytes : Nat → Reader (List UInt8)
  | 0, _ => .error ⟨.endOfString, []⟩
  | _ + 1, [] => .error ⟨.endOfString, []⟩
  | steps + 1, b :: rest =>
    if b = '"'.toUInt8 then .ok ([], rest)
    else if b = '\\'.toUInt8 then do
      let (escaped, rest) ← escapeBytes rest
      let (more, rest) ← stringBytes steps rest
      pure (escaped ++ more, rest)
    else if b < 0x20 then .error ⟨.controlCharacter, rest⟩
    else do
      let (more, rest) ← stringBytes steps rest
      pure (b :: more, rest)

/-- A string whose opening quote has been read.  Its bytes have to be well-formed UTF-8.  If not,
the bytes left are those behind the first ill-formed one, an escape among them counted as the bytes
that it stands for. -/
def string : Reader String := fun bytes => do
  let (content, rest) ← stringBytes bytes.length bytes
  match Text.ofBytes? content with
  | some s => pure (s, rest)
  | none =>
    let left := content.length - Text.wellFormedLength content + rest.length
    .error ⟨.invalidEncoding, bytes.drop (bytes.length - left)⟩

end RecordMapper.Json.Reader
