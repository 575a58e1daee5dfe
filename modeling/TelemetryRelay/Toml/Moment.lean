import TelemetryRelay.Toml.Value

namespace TelemetryRelay.Toml

/-- Takes a number of exactly `count` digits off the front that lies between `low` and `high`. -/
def readDigits (count low high : Nat) : Reader Nat := fun cs =>
  let ds := cs.take count
  let n := Nat.ofDigitChars 10 ds 0
  if ds.length = count ∧ ds.all Char.isDigit ∧ low ≤ n ∧ n ≤ high then some (n, cs.drop count)
  else none

def readChar (p : Char → Bool) : Reader Char
  | c :: rest => if p c then some (c, rest) else none
  | [] => none

def daysIn (year month : Nat) : Nat :=
  if month = 2 then if year % 4 = 0 ∧ (year % 100 ≠ 0 ∨ year % 400 = 0) then 29 else 28
  else if month ∈ [4, 6, 9, 11] then 30
  else 31

def readDate : Reader Unit := fun cs => do
  let (year, cs) ← readDigits 4 0 9999 cs
  let (_, cs) ← readChar (· == '-') cs
  let (month, cs) ← readDigits 2 1 12 cs
  let (_, cs) ← readChar (· == '-') cs
  let (_, cs) ← readDigits 2 1 (daysIn year month) cs
  return ((), cs)

def readTime : Reader Unit := fun cs => do
  let (_, cs) ← readDigits 2 0 23 cs
  let (_, cs) ← readChar (· == ':') cs
  let (_, cs) ← readDigits 2 0 59 cs
  let (_, cs) ← readChar (· == ':') cs
  let (_, cs) ← readDigits 2 0 60 cs
  match cs with
  | '.' :: d :: rest => if d.isDigit then some ((), rest.dropWhile Char.isDigit) else none
  | _ => some ((), cs)

def isOffset (cs : List Char) : Bool :=
  match cs with
  | [] => true
  | c :: rest =>
    if c == 'Z' || c == 'z' then rest.isEmpty
    else if c == '+' || c == '-' then
      match readDigits 2 0 23 rest with
      | some (_, ':' :: rest) => (readDigits 2 0 59 rest).any fun (_, rest) => rest.isEmpty
      | _ => false
    else false

def isZonedTime (cs : List Char) : Bool :=
  (readTime cs).any fun (_, rest) => isOffset rest

def isDate (cs : List Char) : Bool :=
  (readDate cs).any fun (_, rest) => rest.isEmpty

/-- Whether a text without spaces is a date, a time of day, or both with a `T` between them. More is
not known of them. -/
def isMoment (cs : List Char) : Bool :=
  match readDate cs with
  | some (_, []) => true
  | some (_, c :: rest) => (c == 'T' || c == 't') && isZonedTime rest
  | none => (readTime cs).any fun (_, rest) => rest.isEmpty

end TelemetryRelay.Toml
