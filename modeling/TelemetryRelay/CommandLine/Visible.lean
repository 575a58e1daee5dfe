namespace TelemetryRelay.Visible

/-- What kind of control sequence has begun. After `modified` one more character ends it and after
`parameters` a letter; a `title` is ended by the bell, or like a `message` by another sequence. -/
inductive Sequence where
  | none
  | escape
  | modified
  | parameters
  | title
  | message
  deriving Repr, DecidableEq

def isSpacing (c : Char) : Bool :=
  c == '\t' || c == '\n' || c == '\x0c' || c == '\r'

def isSeen (c : Char) : Bool :=
  (' ' ≤ c && c ≤ '~') || isSpacing c

def Sequence.after (s : Sequence) (c : Char) : Sequence :=
  if c == '\x18' || c == '\x1a' then none
  else if c == '\x1b' then escape
  else
    match s with
    | none => none
    | escape =>
      if c == '[' then parameters
      else if c == ']' then title
      else if c == 'P' || c == 'X' || c == '^' || c == '_' then message
      else if ' ' ≤ c && c ≤ '/' then modified
      else if '0' ≤ c && c ≤ '~' then none
      else escape
    | modified => if '0' ≤ c && c ≤ '~' then none else modified
    | parameters => if '@' ≤ c && c ≤ '~' then none else parameters
    | title => if c == '\x07' then none else title
    | message => message

def Sequence.shows (s : Sequence) (c : Char) : Bool :=
  match s with
  | none => isSeen c
  | escape | modified | parameters => isSpacing c
  | title | message => false

/-- The characters that are seen of a text. Once one is seen, those after it are too up to the next
control character, which goes on with the sequence that was begun. -/
def visibleFrom (isOpen : Bool) (s : Sequence) : List Char → List Char
  | [] => []
  | c :: rest =>
    if 0x80 ≤ c.toNat then
      if isOpen || s == .none then c :: visibleFrom true .none rest else visibleFrom false s rest
    else if isOpen && isSeen c then c :: visibleFrom true s rest
    else if !isOpen && s.shows c then c :: visibleFrom true (s.after c) rest
    else visibleFrom false (s.after c) rest

/-- What is seen of a text: neither control sequences nor control characters other than spaces and
line breaks. -/
def ofText (text : String) : String :=
  String.ofList (visibleFrom false .none text.toList)

end TelemetryRelay.Visible
