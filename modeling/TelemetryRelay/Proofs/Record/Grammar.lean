import TelemetryRelay.Proofs.Decimal.Numerals
import TelemetryRelay.Proofs.Text.Quoting
import TelemetryRelay.Record.Point

namespace TelemetryRelay.Point

/-- A text without a comma and without a space. -/
def Unbroken (cs : List Char) : Prop :=
  ∀ c ∈ cs, endsBare c = false

/-- The values that are not quoted. -/
inductive BareText : List Char → FieldValue → Prop where
  | yes : BareText "true".toList (.boolean true)
  | no : BareText "false".toList (.boolean false)
  | integer {cs : List Char} {n : Int64} (text : Decimal.IntegerText cs n.toInt) :
      BareText (cs ++ ['i']) (.integer n)
  | double {cs : List Char} {v : Float} (text : Decimal.readFinite? cs = some v) :
      BareText cs (.double v)

inductive ValueText : List Char → FieldValue → Prop where
  | quoted {cs text : List Char} (inside : Quoted.Inside cs text) :
      ValueText ('"' :: cs ++ ['"']) (.text (String.ofList text))
  | bare {cs : List Char} {v : FieldValue} (text : BareText cs v) (unbroken : Unbroken cs)
      (unquoted : cs.head? ≠ some '"') : ValueText cs v

inductive FieldText : List Char → String × FieldValue → Prop where
  | pair {key : String} {cs : List Char} {v : FieldValue} (name : Name.isKey key = true)
      (value : ValueText cs v) : FieldText (key.toList ++ '=' :: cs) (key, v)

/-- The texts of one field or more, with commas between them. -/
inductive FieldsText : List Char → List (String × FieldValue) → Prop where
  | one {cs : List Char} {field : String × FieldValue} (text : FieldText cs field) :
      FieldsText cs [field]
  | more {cs rest : List Char} {field : String × FieldValue} {fields : List (String × FieldValue)}
      (first : FieldText cs field) (others : FieldsText rest fields) :
      FieldsText (cs ++ ',' :: rest) (field :: fields)

/-- What a line can have as a tag; its value may be empty. -/
structure IsTag (tag : String × String) : Prop where
  key : Name.isKey tag.1 = true
  value : Unbroken tag.2.toList

def tagText (tag : String × String) : List Char :=
  tag.1.toList ++ '=' :: tag.2.toList

/-- The part of a line before its first space. -/
inductive HeadText : List Char → String → List (String × String) → Prop where
  | named {name : String} {tags : List (String × String)}
      (measurement : Name.isMeasurement name = true) (tagged : ∀ tag ∈ tags, IsTag tag) :
      HeadText (name.toList ++ tags.flatMap fun tag => ',' :: tagText tag) name tags

/-- The texts of a time: an integer of 64 bits, perhaps with white space around it. -/
inductive TimeText : List Char → Int64 → Prop where
  | spaced {front cs back : List Char} {time : Int64}
      (before : ∀ c ∈ front, Text.isBlank c = true) (text : Decimal.IntegerText cs time.toInt)
      (after : ∀ c ∈ back, Text.isBlank c = true) : TimeText (front ++ cs ++ back) time

/-- What follows the fields: nothing, or a space and a time. -/
inductive EndText : List Char → Option Int64 → Prop where
  | untimed : EndText [] none
  | timed {cs : List Char} {time : Int64} (text : TimeText cs time) :
      EndText (' ' :: cs) (some time)

/-- The texts of a point: a head, a space and the fields, and perhaps a space and a time. -/
inductive LineText : List Char → Point → Prop where
  | parts {head body tail : List Char} {p : Point} (named : HeadText head p.measurement p.tags)
      (filled : FieldsText body p.fields) (ended : EndText tail p.timestamp) :
      LineText (head ++ ' ' :: (body ++ tail)) p

end TelemetryRelay.Point
