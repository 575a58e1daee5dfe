import TelemetryRelay.Text.Blank

namespace TelemetryRelay.Text

structure Run (α : Type) where
  first : Nat
  last : Nat
  value : α

abbrev Table (α : Type) := Array (Run α)

def hexDigitValue (c : Char) : Nat :=
  if c.isDigit then c.toNat - '0'.toNat else c.toNat - 'A'.toNat + 10

def hexNumber (cs : List Char) : Nat :=
  cs.foldl (fun n c => n * 16 + hexDigitValue c) 0

def numberedText (cs : List Char) : List Char :=
  if cs.isEmpty then [] else (cs.splitOn '.').map fun word => Char.ofNat (hexNumber word)

def words (text : String) : List (List Char) :=
  (text.toList.splitOnP isBlank).filter fun word => !word.isEmpty

def Run.ofWord {α : Type} (value : List Char → α) (word : List Char) : Run α :=
  let (place, text) := (splitFirst ':' word).getD (word, [])
  let (first, last) := (splitFirst '-' place).getD (place, place)
  { first := hexNumber first, last := hexNumber last, value := value text }

/-- The table that a text spells: words in increasing order, each of them a run `first-last:value`
with numbers in base 16, where a run of one character has no `-last`. -/
def Table.ofText {α : Type} (value : List Char → α) (text : String) : Table α :=
  ((words text).map (Run.ofWord value)).toArray

/-- The run that a number lies in, among the runs from index `low` up to before `high`. -/
def Table.findBetween {α : Type} (table : Table α) (n low high : Nat) : Option (Run α) :=
  if low < high then
    let middle := (low + high) / 2
    match table[middle]? with
    | none => none
    | some run =>
      if n < run.first then table.findBetween n low middle
      else if run.last < n then table.findBetween n (middle + 1) high
      else some run
  else none
termination_by high - low
decreasing_by all_goals omega

def Table.run? {α : Type} (table : Table α) (c : Char) : Option (Run α) :=
  table.findBetween c.toNat 0 table.size

def Table.value? {α : Type} (table : Table α) (c : Char) : Option α :=
  (table.run? c).map Run.value

def Table.ofRanges (text : String) : Table Unit :=
  Table.ofText (fun _ => ()) text

def Table.holds (table : Table Unit) (c : Char) : Bool :=
  (table.run? c).isSome

end TelemetryRelay.Text
