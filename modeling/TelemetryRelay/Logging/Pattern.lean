import TelemetryRelay.Text.Letter

namespace TelemetryRelay.Pattern

inductive Escape where
  | literal (c : Char)
  | set
  | edge

def numbered? (count : Nat) (cs : List Char) : Option (Escape × List Char) :=
  let digits := (cs.take count).map fun c =>
    if 'a' ≤ c && c ≤ 'f' then some (c.toNat - 'a'.toNat + 10)
    else if 'A' ≤ c && c ≤ 'F' then some (c.toNat - 'A'.toNat + 10)
    else if c.isDigit then some (c.toNat - '0'.toNat) else none
  let n := digits.foldl (fun n d => n * 16 + d.getD 0) 0
  if digits.length = count && digits.all Option.isSome && n.isValidChar then
    some (.literal (Char.ofNat n), cs.drop count)
  else none

def escape? : List Char → Option (Escape × List Char)
  | [] => none
  | c :: rest =>
    match c with
    | 'x' => numbered? 2 rest
    | 'u' => numbered? 4 rest
    | 'U' => numbered? 8 rest
    | 'p' | 'P' =>
      match rest with
      | name :: rest =>
        if "CLMNPSZ".toList.contains name.toUpper then some (.set, rest) else none
      | [] => none
    | 'a' | 'f' | 't' | 'n' | 'r' | 'v' => some (.literal c, rest)
    | 'A' | 'z' => some (.edge, rest)
    | _ =>
      if "dswDSW".toList.contains c then some (.set, rest)
      else if 0x80 ≤ c.toNat || c.isAlphanum || c == '<' || c == '>' then none
      else some (.literal c, rest)

def member? : List Char → Option (Escape × List Char)
  | [] => none
  | '\\' :: rest => escape? rest
  | c :: rest => some (.literal c, rest)

def range? (cs : List Char) : Option (List Char) :=
  match member? cs with
  | none | some (.edge, _) => none
  | some (first, rest) =>
    match rest with
    | [] => none
    | ['-'] => none
    | '-' :: next :: more =>
      if next == ']' || next == '-' then some rest
      else
        match first, member? (next :: more) with
        | .literal low, some (.literal high, more) => if low ≤ high then some more else none
        | _, _ => none
    | _ => some rest

def setNames : List String :=
  ["alnum", "alpha", "ascii", "blank", "cntrl", "digit", "graph", "lower", "print", "punct",
    "space", "upper", "word", "xdigit"]

def afterNamed? (cs : List Char) : Option (List Char) :=
  match cs with
  | ':' :: rest =>
    let rest := if rest.head? = some '^' then rest.drop 1 else rest
    match rest.span (· != ':') with
    | (name, ':' :: ']' :: more) =>
      if setNames.contains (String.ofList name) then some more else none
    | _ => none
  | _ => none

/-- What follows the opening of a set, from behind its bracket on: it may begin with `^`, and then
with hyphens or with a closing bracket that are members. -/
def afterOpening (cs : List Char) : List Char :=
  let cs := if cs.head? = some '^' then cs.drop 1 else cs
  match cs with
  | '-' :: _ => cs.dropWhile (· == '-')
  | ']' :: rest => rest
  | _ => cs

def afterSet? (depth : Nat) : Nat → List Char → Option (List Char)
  | 0, _ | _, [] => none
  | fuel + 1, c :: rest =>
    match c, rest with
    | ']', _ => if depth = 0 then some rest else afterSet? (depth - 1) fuel rest
    | '[', _ =>
      match afterNamed? rest with
      | some more => afterSet? depth fuel more
      | none => afterSet? (depth + 1) fuel (afterOpening rest)
    | '&', '&' :: more | '-', '-' :: more | '~', '~' :: more => afterSet? depth fuel more
    | _, _ => (range? (c :: rest)).bind (afterSet? depth fuel)

def areSettings (cs : List Char) : Bool :=
  cs.all "imsUuxR-".toList.contains && cs.eraseDups.length == cs.length && cs.getLast? != some '-'

def isGroupName : List Char → Bool
  | [] => false
  | c :: rest =>
    let isLetter := fun (c : Char) => c == '_' || (Text.isWordChar c && !c.isDigit)
    isLetter c && rest.all fun c => isLetter c || c.isDigit || ".[]".toList.contains c

/-- Reads the beginning of a group from behind its parenthesis on. The answer says whether the
group goes on, or was only settings for what follows. -/
def groupOpening? : List Char → Option (Bool × List Char)
  | '?' :: rest =>
    let name := match rest with
      | 'P' :: '<' :: more | '<' :: more => some more
      | _ => none
    match name with
    | some more =>
      match Text.splitFirst '>' more with
      | some (name, more) => if isGroupName name then some (true, more) else none
      | none => none
    | none =>
      match rest.span fun c => c != ':' && c != ')' with
      | (settings, ':' :: more) => if areSettings settings then some (true, more) else none
      | (settings, ')' :: more) =>
        if !settings.isEmpty && areSettings settings then some (false, more) else none
      | _ => none
  | rest => some (true, rest)

/-- Whether the rest of a pattern is well formed, where `depth` groups are open and `canRepeat` says
whether something stands before it that can be repeated; `fuel` bounds the steps. -/
def continues (depth : Nat) (canRepeat : Bool) : Nat → List Char → Bool
  | _, [] => depth == 0
  | 0, _ => false
  | fuel + 1, c :: rest =>
    match c with
    | '(' =>
      match groupOpening? rest with
      | some (goesOn, rest) => continues (if goesOn then depth + 1 else depth) false fuel rest
      | none => false
    | ')' => depth != 0 && continues (depth - 1) true fuel rest
    | '|' => continues depth false fuel rest
    | '*' | '+' | '?' =>
      canRepeat && continues depth true fuel (if rest.head? = some '?' then rest.drop 1 else rest)
    | '\x7b' => false
    | '[' =>
      match afterSet? 0 rest.length (afterOpening rest) with
      | some rest => continues depth true fuel rest
      | none => false
    | '\\' =>
      match escape? rest with
      | some (_, rest) => continues depth true fuel rest
      | none => false
    | _ => continues depth true fuel rest

/-- Whether a text without counts of repetitions is a pattern that can be searched for. Which texts
it fits is not asked here, and borders of words cannot be searched for. -/
def isWellFormed (cs : List Char) : Bool :=
  continues 0 false cs.length cs

end TelemetryRelay.Pattern
