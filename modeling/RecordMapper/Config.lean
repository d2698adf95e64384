import RecordMapper.Fault
import RecordMapper.Sql.Dialect
/-! # Configuration

Three texts choose the dialect: a time zone, which is `UTC`, `Z`, nothing or a fixed offset; the
placeholder style, `?` or `$`; and the quote character. -/
set_option autoImplicit false
namespace RecordMapper

structure Config where
  timezone : String := "UTC"
  placeholder : String := "?"
  quote : String := "`"
deriving DecidableEq, Repr, Inhabited

namespace Config

def load (environment : String → Option String) : Config where
  timezone := (environment "TESSERA_TIMEZONE").getD "UTC"
  placeholder := (environment "TESSERA_PLACEHOLDER").getD "?"
  quote := (environment "TESSERA_QUOTE").getD "`"

def zone (config : Config) : Except Misuse Calendar.Offset :=
  let name := Text.trim config.timezone
  let lowered := name.toLower
  if name.isEmpty || lowered = "utc" || lowered = "z" then .ok Calendar.Offset.utc
  else (Calendar.Offset.ofText name).mapError (Misuse.badZone name)

def placeholderStyle (config : Config) : Except Misuse Sql.Placeholder :=
  let name := Text.trim config.placeholder
  if name = "?" then .ok .positional
  else if name = "$" then .ok .numbered
  else .error (.badPlaceholder name)

def quoteChar (config : Config) : Except Misuse Char :=
  match config.quote.toList with
  | [c] => .ok c
  | _ => .error (.badQuote config.quote)

/-- The dialect; of several faults the quote comes first and the zone last. -/
def dialect (config : Config) : Except Misuse Sql.Dialect := do
  let quote ← config.quoteChar
  let placeholder ← config.placeholderStyle
  let zone ← config.zone
  pure { quote, placeholder, zone }

end Config

end RecordMapper
