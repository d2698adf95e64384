import RecordMapper.Record
import RecordMapper.Text.Quoted
/-! # Descriptions

Texts for a person who looks at a record: each value is shown with its variant, texts are quoted,
and floats always have a point or an exponent. -/
set_option autoImplicit false
namespace RecordMapper

/-- The layout of floats in descriptions: positional from `0.0001` to below `10 ^ 16`. -/
def descriptionLayout : Decimal.Layout where
  plainFrom := -4
  plainBelow := 16
  pointZero := true
  plusSign := false
  tie := .up
  nan := "NaN"
  infinity := "inf"

def enclosed (opening closing : String) (parts : List String) : String :=
  opening ++ String.intercalate ", " parts ++ closing

namespace Json

mutual

def describe : Json → String
  | .null => "Null"
  | .bool b => "Bool(" ++ toString b ++ ")"
  | .number n => "Number(" ++ n.text ++ ")"
  | .string s => "String(" ++ Text.quoted s ++ ")"
  | .array items => enclosed "Array [" "]" (describeItems items)
  | .object members => enclosed "Object \x7b" "\x7d" (describeMembers members)

def describeItems : List Json → List String
  | [] => []
  | item :: rest => describe item :: describeItems rest

def describeMembers : List (String × Json) → List String
  | [] => []
  | (name, value) :: rest => (Text.quoted name ++ ": " ++ describe value) :: describeMembers rest

end

end Json

def Value.describe : Value → String
  | .null => "Null"
  | .bool b => "Bool(" ++ toString b ++ ")"
  | .int n => "Int(" ++ toString n.toInt ++ ")"
  | .float x => "Float(" ++ descriptionLayout.render x ++ ")"
  | .str s => "Str(" ++ Text.quoted s ++ ")"
  | .timestamp t => "Timestamp(" ++ t.shown ++ ")"
  | .json document => "Json(" ++ document.describe ++ ")"

def Record.describe (record : Record) : String :=
  enclosed "Record \x7b " " \x7d"
    (("table: " ++ Text.quoted record.schema.table) :: ("id: " ++ record.id.describe) ::
      record.fieldValues.map fun entry => entry.1 ++ ": " ++ entry.2.describe)

end RecordMapper
