namespace TelemetryRelay.Text

/-- Whether a character is white space, as Unicode's property White_Space lists it. -/
def isBlank (c : Char) : Bool :=
  let n := c.toNat
  (9 ≤ n && n ≤ 13) || n == 0x20 || n == 0x85 || n == 0xA0 || n == 0x1680 ||
    (0x2000 ≤ n && n ≤ 0x200A) || n == 0x2028 || n == 0x2029 || n == 0x202F || n == 0x205F ||
    n == 0x3000

def dropTrailing {α : Type} (p : α → Bool) (xs : List α) : List α :=
  (xs.reverse.dropWhile p).reverse

def trim (cs : List Char) : List Char :=
  dropTrailing isBlank (cs.dropWhile isBlank)

def isLineBreak (c : Char) : Bool :=
  c == '\n' || c == '\r'

/-- Splits at the first `sep`, which is in neither part. -/
def splitFirst {α : Type} [BEq α] (sep : α) (xs : List α) : Option (List α × List α) :=
  match xs.span (fun x => !(x == sep)) with
  | (before, _ :: after) => some (before, after)
  | (_, []) => none

end TelemetryRelay.Text
