import TelemetryRelay.Toml.Space
import TelemetryRelay.Toml.Value

namespace TelemetryRelay.Toml

structure TextStyle where
  quote : Char
  escapes : Bool
  long : Bool

def hexDigit? (c : Char) : Option Nat :=
  if c.isDigit then some (c.toNat - '0'.toNat)
  else if 'a' ≤ c && c ≤ 'f' then some (c.toNat - 'a'.toNat + 10)
  else if 'A' ≤ c && c ≤ 'F' then some (c.toNat - 'A'.toNat + 10)
  else none

def hexNumber? (cs : List Char) : Option Nat :=
  cs.foldlM (fun n c => (hexDigit? c).map fun d => n * 16 + d) 0

def scalar? (cs : List Char) : Option Char :=
  (hexNumber? cs).bind fun n => if n.isValidChar then some (Char.ofNat n) else none

def escaped? : Char → Option Char
  | 'b' => some '\x08'
  | 't' => some '\t'
  | 'n' => some '\n'
  | 'f' => some '\x0C'
  | 'r' => some '\r'
  | '"' => some '"'
  | '\\' => some '\\'
  | _ => none

def readEscape : Reader Char
  | 'u' :: a :: b :: c :: d :: rest => (scalar? [a, b, c, d]).map fun x => (x, rest)
  | 'U' :: a :: b :: c :: d :: e :: f :: g :: h :: rest =>
    (scalar? [a, b, c, d, e, f, g, h]).map fun x => (x, rest)
  | c :: rest => (escaped? c).map fun x => (x, rest)
  | [] => none

theorem length_of_readEscape {cs rest : List Char} {x : Char} (h : readEscape cs = some (x, rest)) :
    rest.length < cs.length := by
  unfold readEscape at h
  split at h
  · obtain ⟨_, _, he⟩ := Option.map_eq_some_iff.mp h
    simp only [Prod.mk.injEq] at he
    simp [← he.2]; omega
  · obtain ⟨_, _, he⟩ := Option.map_eq_some_iff.mp h
    simp only [Prod.mk.injEq] at he
    simp [← he.2]; omega
  · obtain ⟨_, _, he⟩ := Option.map_eq_some_iff.mp h
    simp only [Prod.mk.injEq] at he
    simp [← he.2]
  · simp at h

def endsLine (cs : List Char) : Bool :=
  (lineBreak? (skipSpaces cs)).isSome

/-- Reads on after `done`, which is reversed. While `trimming`, spaces and line breaks are dropped:
that is what a backslash at the end of a line asks for. -/
def readTextOnto (style : TextStyle) (trimming : Bool) (done : List Char) (cs : List Char) :
    Option (String × List Char) :=
  match cs with
  | [] => none
  | c :: rest =>
    if trimming && isSpace c then readTextOnto style true done rest
    else if c == '\n' then
      if !style.long then none
      else readTextOnto style trimming (if trimming then done else '\n' :: done) rest
    else if c == '\r' then
      match rest with
      | '\n' :: rest =>
        if !style.long then none
        else readTextOnto style trimming (if trimming then done else '\n' :: done) rest
      | _ => none
    else if c == style.quote then
      if !style.long then some (String.ofList done.reverse, rest)
      else if rest.take 2 == [style.quote, style.quote] then
        let more := ((rest.drop 2).take 2).takeWhile (· == style.quote)
        some (String.ofList (more ++ done).reverse, rest.drop (2 + more.length))
      else readTextOnto style false (c :: done) rest
    else if c == '\\' && style.escapes then
      if style.long && endsLine rest then readTextOnto style true done rest
      else
        match h : readEscape rest with
        | some (x, rest) =>
          have := length_of_readEscape h
          readTextOnto style false (x :: done) rest
        | none => none
    else if isPlain c then readTextOnto style false (c :: done) rest
    else none
termination_by cs.length
decreasing_by all_goals simp only [List.length_cons]; omega

def skipLineBreak (cs : List Char) : List Char :=
  (lineBreak? cs).getD cs

def readShortText : Reader String
  | '"' :: rest => readTextOnto ⟨'"', true, false⟩ false [] rest
  | '\'' :: rest => readTextOnto ⟨'\'', false, false⟩ false [] rest
  | _ => none

/-- Takes a text off the front; a line break right after three opening quotes does not count. -/
def readText : Reader String
  | '"' :: '"' :: '"' :: rest => readTextOnto ⟨'"', true, true⟩ false [] (skipLineBreak rest)
  | '\'' :: '\'' :: '\'' :: rest => readTextOnto ⟨'\'', false, true⟩ false [] (skipLineBreak rest)
  | cs => readShortText cs

end TelemetryRelay.Toml
