import RecordMapper.Json.Reader.Number
import RecordMapper.Json.Reader.String
/-! # Reading documents

Arrays and objects may be opened at most `depthMax` deep; the recursion is on the depth that is
left, and the items of one array are read by the reader for the next depth. -/
set_option autoImplicit false
namespace RecordMapper.Json

namespace Reader

def keyword (document : Json) : List UInt8 → Reader Json
  | [], bytes => .ok (document, bytes)
  | _ :: _, [] => .error ⟨.endOfValue, []⟩
  | letter :: letters, b :: rest =>
    if b = letter then keyword document letters rest else .error ⟨.expectedKeyword, rest⟩

def items (item : Reader Json) : Nat → Reader (List Json)
  | 0, _ => .error ⟨.endOfList, []⟩
  | steps + 1, bytes => do
    let (first, rest) ← item bytes
    match skipSpace rest with
    | [] => .error ⟨.endOfList, []⟩
    | b :: after =>
      if b = ']'.toUInt8 then pure ([first], after)
      else if b = ','.toUInt8 then
        match skipSpace after with
        | [] => .error ⟨.endOfValue, []⟩
        | c :: later =>
          if c = ']'.toUInt8 then .error ⟨.trailingComma, later⟩
          else do
            let (others, rest) ← items item steps (c :: later)
            pure (first :: others, rest)
      else .error ⟨.expectedListEnd, after⟩

def array (item : Reader Json) : Reader (List Json) := fun bytes =>
  match skipSpace bytes with
  | [] => .error ⟨.endOfList, []⟩
  | b :: rest =>
    if b = ']'.toUInt8 then .ok ([], rest) else items item bytes.length (b :: rest)

def member (item : Reader Json) : Reader (String × Json)
  | [] => .error ⟨.endOfValue, []⟩
  | b :: rest =>
    if b = '"'.toUInt8 then do
      let (name, rest) ← string rest
      match skipSpace rest with
      | [] => .error ⟨.endOfObject, []⟩
      | c :: after =>
        if c = ':'.toUInt8 then do
          let (value, rest) ← item after
          pure ((name, value), rest)
        else .error ⟨.expectedColon, after⟩
    else .error ⟨.expectedName, rest⟩

/-- The members of an object from its first one on, in the order of the text. -/
def members (item : Reader Json) : Nat → Reader (List (String × Json))
  | 0, _ => .error ⟨.endOfObject, []⟩
  | steps + 1, bytes => do
    let (first, rest) ← member item bytes
    match skipSpace rest with
    | [] => .error ⟨.endOfObject, []⟩
    | b :: after =>
      if b = '\x7d'.toUInt8 then pure ([first], after)
      else if b = ','.toUInt8 then
        match skipSpace after with
        | [] => .error ⟨.endOfValue, []⟩
        | c :: later =>
          if c = '\x7d'.toUInt8 then .error ⟨.trailingComma, later⟩
          else do
            let (others, rest) ← members item steps (c :: later)
            pure (first :: others, rest)
      else .error ⟨.expectedObjectEnd, after⟩

def object (item : Reader Json) : Reader (List (String × Json)) := fun bytes =>
  match skipSpace bytes with
  | [] => .error ⟨.endOfObject, []⟩
  | b :: rest =>
    if b = '\x7d'.toUInt8 then .ok ([], rest) else members item bytes.length (b :: rest)

/-- A document that opens at most `depth` arrays and objects inside one another. -/
def value (depth : Nat) : Reader Json := fun bytes =>
  match skipSpace bytes with
  | [] => .error ⟨.endOfValue, []⟩
  | b :: rest =>
    if b = 'n'.toUInt8 then keyword .null (Text.toBytes "ull") rest
    else if b = 't'.toUInt8 then keyword (.bool true) (Text.toBytes "rue") rest
    else if b = 'f'.toUInt8 then keyword (.bool false) (Text.toBytes "alse") rest
    else if b = '-'.toUInt8 then do
      let (n, rest) ← number true rest
      pure (.number n, rest)
    else if isDigit b then do
      let (n, rest) ← number false (b :: rest)
      pure (.number n, rest)
    else if b = '"'.toUInt8 then do
      let (s, rest) ← string rest
      pure (.string s, rest)
    else if b = '['.toUInt8 then
      match depth with
      | 0 => .error ⟨.tooDeep, rest⟩
      | depth + 1 => do
        let (contents, rest) ← array (value depth) rest
        pure (.array contents, rest)
    else if b = '\x7b'.toUInt8 then
      match depth with
      | 0 => .error ⟨.tooDeep, rest⟩
      | depth + 1 => do
        let (contents, rest) ← object (value depth) rest
        pure (Json.ofMembers contents, rest)
    else .error ⟨.expectedValue, rest⟩

def depthMax : Nat := 127

end Reader

def ofBytes (bytes : List UInt8) : Except Fault Json :=
  match Reader.value Reader.depthMax bytes with
  | .error stop => .error (stop.locate bytes)
  | .ok (document, rest) =>
    match Reader.skipSpace rest with
    | [] => .ok document
    | _ :: after => .error (Stop.locate bytes ⟨.trailingCharacters, after⟩)

def ofText (s : String) : Except Fault Json := ofBytes (Text.toBytes s)

end RecordMapper.Json
