import RecordMapper.Decimal.Layout
import RecordMapper.Json.Basic
/-! # The compact text of a document

No space is written between tokens.  In a string, quotes, backslashes and control characters are
escaped and every other character stands for itself. -/
set_option autoImplicit false
namespace RecordMapper.Json

/-- Floats have the fewest digits that identify them: positional from `0.00001` to below `10 ^ 16`
with at least one decimal, otherwise with a signed exponent. -/
def floatLayout : Decimal.Layout where
  plainFrom := -5
  plainBelow := 16
  pointZero := true
  plusSign := true
  tie := .even
  nan := "null"
  infinity := "null"

def Number.text : Number → String
  | .int n => toString n
  | .float x => floatLayout.render x

def escape (c : Char) : List Char :=
  if c = '"' then ['\\', '"']
  else if c = '\\' then ['\\', '\\']
  else if c = '\n' then ['\\', 'n']
  else if c = '\r' then ['\\', 'r']
  else if c = '\t' then ['\\', 't']
  else if c = '\x08' then ['\\', 'b']
  else if c = '\x0c' then ['\\', 'f']
  else if c.toNat < 0x20 then
    ['\\', 'u', '0', '0', Nat.digitChar (c.toNat / 16), Nat.digitChar (c.toNat % 16)]
  else [c]

def stringChars (s : String) : List Char := '"' :: s.toList.flatMap escape ++ ['"']

mutual

def chars : Json → List Char
  | .null => ['n', 'u', 'l', 'l']
  | .bool true => ['t', 'r', 'u', 'e']
  | .bool false => ['f', 'a', 'l', 's', 'e']
  | .number n => n.text.toList
  | .string s => stringChars s
  | .array items => '[' :: itemChars items ++ [']']
  | .object members => '\x7b' :: memberChars members ++ ['\x7d']

def itemChars : List Json → List Char
  | [] => []
  | [item] => chars item
  | item :: next :: rest => chars item ++ ',' :: itemChars (next :: rest)

def memberChars : List (String × Json) → List Char
  | [] => []
  | [(name, value)] => stringChars name ++ ':' :: chars value
  | (name, value) :: next :: rest =>
    stringChars name ++ ':' :: chars value ++ ',' :: memberChars (next :: rest)

end

def text (document : Json) : String := String.ofList document.chars

end RecordMapper.Json
