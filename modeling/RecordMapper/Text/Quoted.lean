import RecordMapper.Text.Shown
/-! # Quoted text

`quoted` writes a text between double quotes so that it can be shown on one line: quotes,
backslashes and the common controls get a short escape, and every other character that would not
show by itself gets its code point in hexadecimal. -/
set_option autoImplicit false
namespace RecordMapper.Text

def quotedChar (c : Char) : String :=
  if c = '"' then "\\\""
  else if c = '\\' then "\\\\"
  else if c = '\t' then "\\t"
  else if c = '\n' then "\\n"
  else if c = '\r' then "\\r"
  else if c = '\x00' then "\\0"
  else if isShown c then c.toString
  else "\\u\x7b" ++ String.ofList (Nat.toDigits 16 c.toNat) ++ "\x7d"

def quoted (s : String) : String :=
  "\"" ++ String.join (s.toList.map quotedChar) ++ "\""

end RecordMapper.Text
