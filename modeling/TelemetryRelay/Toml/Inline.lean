import TelemetryRelay.Toml.Moment
import TelemetryRelay.Toml.Number
import TelemetryRelay.Toml.Table
import TelemetryRelay.Toml.Text

namespace TelemetryRelay.Toml

def isBareKeyChar (c : Char) : Bool :=
  c.isAlphanum || c == '_' || c == '-'

def readKeyPart : Reader String
  | [] => none
  | c :: rest =>
    if c == '"' || c == '\'' then readShortText (c :: rest)
    else if isBareKeyChar c then
      some (String.ofList (c :: rest.takeWhile isBareKeyChar), rest.dropWhile isBareKeyChar)
    else none

/-- Takes a key off the front, with the spaces around it and around its dots. `fuel` bounds the
number of its parts, of which `done` are read. -/
def readKeyOnto (done : List String) : Nat → Reader (List String)
  | 0, _ => none
  | fuel + 1, cs =>
    match readKeyPart (skipSpaces cs) with
    | none => none
    | some (part, rest) =>
      match skipSpaces rest with
      | '.' :: rest => readKeyOnto (part :: done) fuel rest
      | rest => some ((part :: done).reverse, rest)

def readKey : Reader (List String) :=
  readKeyOnto [] maxDepth

def isWordChar (c : Char) : Bool :=
  c.isAlphanum || c == '+' || c == '-' || c == '.' || c == ':' || c == '_'

def readWord? (word : List Char) : Option Value :=
  if word = "true".toList then some (.boolean true)
  else if word = "false".toList then some (.boolean false)
  else if isMoment word then some .moment
  else
    match readFloat? word with
    | some v => some (.float v)
    | none => (readInteger? word).map .integer

/-- Takes a boolean, a number, a date or a time off the front; between a date and a time there may
be a space. -/
def readScalar : Reader Value := fun cs =>
  let word := cs.takeWhile isWordChar
  let rest := cs.dropWhile isWordChar
  match rest with
  | ' ' :: d :: after =>
    if isDate word && d.isDigit then
      let time := (d :: after).takeWhile isWordChar
      if isZonedTime time then some (.moment, (d :: after).dropWhile isWordChar) else none
    else (readWord? word).map fun v => (v, rest)
  | _ => (readWord? word).map fun v => (v, rest)

mutual

/-- Takes a value off the front. `depth` bounds the arrays and tables inside each other, `fuel` the
number of steps. -/
def readValueWith (depth : Nat) : Nat → Reader Value
  | 0, _ => none
  | fuel + 1, cs =>
    match cs, depth with
    | '[' :: rest, depth + 1 => readItems depth [] fuel rest
    | '{' :: rest, depth + 1 =>
      match skipSpaces rest with
      | '}' :: rest => some (.table [], rest)
      | rest => readPairs depth [] fuel rest
    | '"' :: _, _ | '\'' :: _, _ => (readText cs).map fun (s, rest) => (.text s, rest)
    | _, _ => readScalar cs

def readItems (depth : Nat) (done : List Value) : Nat → Reader Value
  | 0, _ => none
  | fuel + 1, cs =>
    match skipBlank cs with
    | ']' :: rest => some (.array done.reverse, rest)
    | cs =>
      match readValueWith depth fuel cs with
      | none => none
      | some (v, rest) =>
        match skipBlank rest with
        | ',' :: rest => readItems depth (v :: done) fuel rest
        | ']' :: rest => some (.array (v :: done).reverse, rest)
        | _ => none

def readPairs (depth : Nat) (done : Entries) : Nat → Reader Value
  | 0, _ => none
  | fuel + 1, cs =>
    match readKey cs with
    | some (path, '=' :: rest) =>
      match readValueWith depth fuel (skipSpaces rest) with
      | none => none
      | some (v, rest) =>
        match done.addValue path.dropLast (path.getLastD "") v, skipSpaces rest with
        | some done, ',' :: rest => readPairs depth done fuel rest
        | some done, '}' :: rest => some (.table (Entries.toValues done), rest)
        | _, _ => none
    | _ => none

end

def readValue : Reader Value := fun cs =>
  readValueWith maxDepth (2 * cs.length + 2) cs

end TelemetryRelay.Toml
