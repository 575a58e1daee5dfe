import TelemetryRelay.Text.Utf8

namespace TelemetryRelay.Quoted

def isSpecial (c : Char) : Bool :=
  c == '"' || c == '\\'

def escape (cs : List Char) : List Char :=
  cs.flatMap fun c => if isSpecial c then ['\\', c] else [c]

def unescapeOnto : List Char → List Char → List Char
  | done, [] => done.reverse
  | done, [c] => (c :: done).reverse
  | done, c :: d :: rest =>
    if c == '\\' && isSpecial d then unescapeOnto (d :: done) rest
    else unescapeOnto (c :: done) (d :: rest)

/-- Drops the backslash in front of a quote or a backslash; before any other character it stays. -/
def unescape (cs : List Char) : List Char :=
  unescapeOnto [] cs

def splitAtQuoteOnto : List Char → List Char → Option (List Char × List Char)
  | _, [] => none
  | done, c :: rest =>
    if c == '"' then some (done.reverse, rest)
    else if c == '\\' then
      match rest with
      | [] => none
      | d :: rest => splitAtQuoteOnto (d :: c :: done) rest
    else splitAtQuoteOnto (c :: done) rest

/-- What stands before and after the closing quote, where a backslash hides the character after
it. `none` if the text is never closed. -/
def splitAtQuote (cs : List Char) : Option (List Char × List Char) :=
  splitAtQuoteOnto [] cs

/-- The offset of the closing quote counted from `position`, where a backslash hides the byte after
it. `none` if the text is never closed. -/
def closingQuote (position : Nat) : Bytes → Option Nat
  | [] => none
  | b :: rest =>
    if b == 0x22 then some position
    else if b == 0x5C then
      match rest with
      | [] => none
      | _ :: rest => closingQuote (position + 2) rest
    else closingQuote (position + 1) rest

end TelemetryRelay.Quoted
