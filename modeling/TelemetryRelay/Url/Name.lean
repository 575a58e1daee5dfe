import TelemetryRelay.Text.Composition
import TelemetryRelay.Text.Direction
import TelemetryRelay.Text.Joining
import TelemetryRelay.Url.Error
import TelemetryRelay.Url.Punycode
import TelemetryRelay.Url.Spelling

namespace TelemetryRelay.Url

def isAscii (c : Char) : Bool :=
  c.toNat < 0x80

def isForbidden (c : Char) : Bool :=
  c.toNat ≤ 0x20 || c.toNat = 0x7F || "#%/:<>?@[\\]^|".toList.contains c

def isEncoded (label : List Char) : Bool :=
  label.take 4 == "xn--".toList

def respell? (cs : List Char) : Option (List Char) :=
  (cs.mapM spelling?).map fun texts => Text.compose texts.flatten

/-- The text that an encoded label stands for, of at most two thousand characters after `xn--`. It
goes beyond ASCII and is in the one spelling. -/
def decodedLabel? (label : List Char) : Option (List Char) :=
  let code := label.drop 4
  if !label.all isAscii || 2000 < code.length || code.getLast? = some '-' then none
  else
    (Punycode.decode code).bind fun text =>
      if text.all isAscii || isEncoded text || respell? text != some text then none else some text

def labelText? (label : List Char) : Option (List Char) :=
  if isEncoded label then decodedLabel? label else some label

def meetsJoining (p : Text.Joining → Bool) (cs : List Char) : Bool :=
  (cs.find? fun c => Text.joining c != .through).any fun c => p (Text.joining c)

/-- Whether the joiners in a label, after the characters `before` in reversed order, show. Both
joiners may follow a mark that takes a vowel off, and the one that separates may also stand between
letters that would join. -/
def joinersShow (before : List Char) : List Char → Bool
  | [] => true
  | c :: rest =>
    let shows :=
      before.head?.any Text.isVowelKiller ||
        (c == '\u200C' && meetsJoining Text.Joining.joinsAfter before &&
          meetsJoining Text.Joining.joinsBefore rest)
    ((c != '\u200C' && c != '\u200D') || shows) && joinersShow (c :: before) rest

def isRightToLeft (c : Char) : Bool :=
  [.right, .arabic, .arabicNumber].contains (Text.direction c)

/-- Whether it is clear how to read a label in a name that is partly read from right to left. The
first letter gives the direction, and the last character but for marks keeps to it. -/
def readsClearly (label : List Char) : Bool :=
  match label.map Text.direction with
  | [] => true
  | first :: rest =>
    let rest := Text.dropTrailing (· == .mark) rest
    let last := rest.getLastD first
    if first = .left then
      !rest.any [.right, .arabic, .arabicNumber].contains && [.left, .europeanNumber].contains last
    else if first = .right || first = .arabic then
      !rest.contains .left &&
        [.right, .arabic, .europeanNumber, .arabicNumber].contains last &&
        !(rest.contains .europeanNumber && rest.contains .arabicNumber)
    else false

def areClear (labels : List (List Char)) : Bool :=
  labels.all (fun label => !label.head?.any Text.isMark && joinersShow [] label) &&
    (!labels.any (·.any isRightToLeft) || labels.all readsClearly)

/-- A label as it is looked up; of those that are encoded only ones of at most a thousand
characters are. -/
def lookupLabel? (label : List Char) : Option (List Char) :=
  if label.all isAscii then some label
  else if 1000 < label.length then none
  else some ("xn--".toList ++ Punycode.encode label)

def lookupSpelt? (name : List Char) : Option (List Char) :=
  let labels := name.splitOn '.'
  if name.any isForbidden then none
  else
    (labels.mapM labelText?).bind fun texts =>
      if areClear texts then
        (labels.mapM lookupLabel?).map fun labels => ['.'].intercalate labels
      else none

/-- A name as it is looked up. Refused are labels that could be taken for others: those that are not
in their one spelling, begin with a mark, or have a joiner where it does not show, and labels whose
order of reading is unclear. A name of ASCII without encoded labels is only brought to small
letters. -/
def lookupName (name : List Char) : Except UrlError (List Char) :=
  let small := name.map Char.toLower
  let found :=
    if name.all isAscii && !(small.splitOn '.').any isEncoded then
      if small.any isForbidden then none else some small
    else (respell? name).bind lookupSpelt?
  match found with
  | some found => .ok found
  | none => .error .invalidName

end TelemetryRelay.Url
