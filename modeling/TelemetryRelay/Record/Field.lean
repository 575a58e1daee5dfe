import TelemetryRelay.Decimal.Fixed
import TelemetryRelay.Text.Blank
import TelemetryRelay.Text.Quoted

namespace TelemetryRelay

inductive FieldValue where
  | double (value : Float)
  | integer (value : Int64)
  | text (value : String)
  | boolean (value : Bool)

namespace FieldValue

/-- A double has six places, an integer ends in `i`, a text stands in quotes, and a boolean is a
word. -/
def render : FieldValue → String
  | double v => Decimal.fixed v
  | integer v => Decimal.ofInt v.toInt ++ "i"
  | text v => String.ofList ('"' :: Quoted.escape v.toList ++ ['"'])
  | boolean true => "true"
  | boolean false => "false"

/-- Whether a value can stand in a record: doubles are finite, and a text does not end the line. -/
def isWritable : FieldValue → Bool
  | double v => Binary64.isFinite v
  | text v => !v.toList.any Text.isLineBreak
  | _ => true

end FieldValue
end TelemetryRelay
