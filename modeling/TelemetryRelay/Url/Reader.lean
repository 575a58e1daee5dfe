import TelemetryRelay.Url.Basic

namespace TelemetryRelay.Url

def clean (cs : List Char) : List Char :=
  let isEdge := fun (c : Char) => decide (c ≤ ' ')
  (Text.dropTrailing isEdge (cs.dropWhile isEdge)).filter fun c =>
    c != '\t' && c != '\n' && c != '\r'

def isSchemeChar (c : Char) : Bool :=
  c.isAlphanum || c == '+' || c == '-' || c == '.'

def readScheme? (cs : List Char) : Option (String × List Char) :=
  match cs with
  | [] => none
  | c :: _ =>
    if !c.isAlpha then none
    else
      match cs.dropWhile isSchemeChar with
      | ':' :: rest => some (String.ofList ((cs.takeWhile isSchemeChar).map Char.toLower), rest)
      | _ => none

def endsAuthority (special : Bool) (c : Char) : Bool :=
  c == '/' || c == '?' || c == '#' || (special && c == '\\')

def endsPath (c : Char) : Bool :=
  c == '?' || c == '#'

/-- Splits before the first colon outside brackets. -/
def splitHost (inside : Bool) (done : List Char) : List Char → List Char × List Char
  | [] => (done.reverse, [])
  | c :: rest =>
    if c == ':' && !inside then (done.reverse, c :: rest)
    else splitHost (if c == '[' then true else if c == ']' then false else inside) (c :: done) rest

def readPort (scheme : String) (cs : List Char) : Except UrlError (Option Nat) :=
  if !cs.all Char.isDigit then .error .invalidPort
  else
    let n := Nat.ofDigitChars 10 cs 0
    if 65535 < n then .error .invalidPort
    else if cs.isEmpty || defaultPort? scheme = some n then .ok none
    else .ok (some n)

def readUser (cs : List Char) : String × Option String :=
  let encode := fun cs => String.ofList (Percent.encode Percent.inUser cs)
  match Text.splitFirst ':' cs with
  | none => (encode cs, none)
  | some (user, password) =>
    (encode user, if password.isEmpty then none else some (encode password))

/-- Reads the host with its user and its port. What stands before the last at sign is the user. A
backslash ends the port; the second part of the answer is what it leaves for the path. -/
def readAuthority (scheme : String) (cs : List Char) (u : Url) :
    Except UrlError (Url × List Char) := do
  let parts := cs.splitOn '@'
  let place := parts.getLastD []
  let (user, password) := readUser (['@'].intercalate parts.dropLast)
  let (name, port) := splitHost false [] place
  let hasUser := !user.isEmpty || password.isSome || parts.head? = some []
  if name.isEmpty && (isSpecial scheme || (1 < parts.length && hasUser) || !port.isEmpty) then
    .error .emptyHost
  else
    let host ← if isSpecial scheme then Host.readSpecial name else Host.readOther name
    let (digits, rest) := (port.drop 1).span (· != '\\')
    let port ← readPort scheme digits
    return ({ u with user, password, host := some host, port }, rest)

def isHere (name : List Char) : Bool :=
  [".", "%2e"].contains (String.ofList (name.map Char.toLower))

def isAbove (name : List Char) : Bool :=
  ["..", ".%2e", "%2e.", "%2e%2e"].contains (String.ofList (name.map Char.toLower))

def isDrive (name : List Char) : Bool :=
  match name with
  | [letter, mark] => letter.isAlpha && (mark == ':' || mark == '|')
  | _ => false

def beginsAtDrive (name : List Char) : Bool :=
  isDrive (name.take 2) && (name.drop 2).head?.all (· == '\\')

def above (done : List String) : List String :=
  if done.head?.any fun name => beginsAtDrive name.toList then done else done.tail

/-- A name as it is written in a path; the mark of a drive at the beginning of the path of a file
is a colon. -/
def writtenName (isFile : Bool) (done : List String) (name : List Char) : String :=
  if isFile && done.isEmpty && isDrive name then String.ofList (name.take 1 ++ [':'])
  else String.ofList (Percent.encode Percent.inPath name)

/-- Resolves the names of a path onto `done`, which is reversed. A name for a directory leaves an
empty name at the end of the path. -/
def resolve (isFile : Bool) (done : List String) : List (List Char) → List String
  | [] => done.reverse
  | name :: rest =>
    let isLast := rest.isEmpty
    if isAbove name then resolve isFile (if isLast then "" :: above done else above done) rest
    else if isHere name then resolve isFile (if isLast then "" :: done else done) rest
    else resolve isFile (writtenName isFile done name :: done) rest

def splitPath (special : Bool) (cs : List Char) : List (List Char) :=
  (if special then cs.map fun c => if c == '\\' then '/' else c else cs).splitOn '/'

def readSegments (special : Bool) (cs : List Char) : List String :=
  resolve false [] (splitPath special cs)

def readTail (special : Bool) (cs : List Char) (u : Url) : Url :=
  let (query, rest) := match cs with
    | '?' :: rest =>
      (some (String.ofList (Percent.encode (Percent.inQuery special) (rest.takeWhile (· != '#')))),
        rest.dropWhile (· != '#'))
    | _ => (none, cs)
  let fragment := match rest with
    | '#' :: rest => some (String.ofList (Percent.encode Percent.inFragment rest))
    | _ => none
  { u with query, fragment }

def readAfterHost (special : Bool) (cs : List Char) (u : Url) : Url :=
  let path := cs.takeWhile fun c => !endsPath c
  let names := match path with
    | [] => if special then [""] else []
    | c :: rest =>
      if c == '/' || (special && c == '\\') then readSegments special rest
      else readSegments special path
  readTail special (cs.dropWhile fun c => !endsPath c) { u with path := .segments names }

def readFromHost (scheme : String) (cs : List Char) : Except UrlError Url :=
  let special := isSpecial scheme
  let place := cs.takeWhile fun c => !endsAuthority special c
  let rest := cs.dropWhile fun c => !endsAuthority special c
  (readAuthority scheme place { scheme, path := .segments [] }).map fun (u, more) =>
    readAfterHost special (more ++ rest) u

def isSlash (c : Char) : Bool :=
  c == '/' || c == '\\'

/-- What stands between two slashes and the path in the address of a file, and what follows. A
drive is not a host, and belongs to the path. -/
def splitFileHost (cs : List Char) : List Char × List Char :=
  let place := cs.takeWhile fun c => !endsAuthority true c
  if isDrive place then ([], cs) else (place, cs.drop place.length)

def readFileNames (done : List String) (cs : List Char) : List String :=
  resolve true done (splitPath true cs)

def readFilePlace (cs : List Char) : Except UrlError (Host × List String) := do
  let path := fun (cs : List Char) => cs.takeWhile fun c => !endsPath c
  match cs with
  | a :: b :: rest =>
    if isSlash a && isSlash b then
      let (place, rest) := splitFileHost rest
      let host ← if place.isEmpty then .ok (.name "") else Host.readSpecial place
      if host = .name "" || host = .name "localhost" then
        return (.name "", readFileNames [] (path rest))
      else return (host, readFileNames [] ((path rest).drop 1))
    else return (.name "", readFileNames [] (path (if isSlash a then b :: rest else cs)))
  | _ => return (.name "", readFileNames [] (path (if cs.head?.any isSlash then cs.drop 1 else cs)))

/-- Reads the address of a file. Its host may be missing, and is left out where the path begins
with a drive. Empty names at the beginning of its path do not count. -/
def readFile (cs : List Char) : Except UrlError Url := do
  let (host, names) ← readFilePlace cs
  let host := if names.head?.any fun name => isDrive name.toList then .name "" else host
  let names := names.dropWhile String.isEmpty
  let path := UrlPath.segments (if names.isEmpty then [""] else names)
  return readTail true (cs.dropWhile fun c => !endsPath c)
    { scheme := "file", host := some host, path }

def readWithoutHost (scheme : String) (cs : List Char) : Url :=
  match cs with
  | '/' :: _ => readAfterHost false cs { scheme, path := .segments [] }
  | _ =>
    let path := cs.takeWhile fun c => !endsPath c
    readTail false (cs.dropWhile fun c => !endsPath c)
      { scheme, path := .rootless (String.ofList (Percent.encode Percent.isControl path)) }

/-- Reads an address. Tabs and line breaks say nothing, and neither do spaces and control characters
at either end. Under the schemes of the web any number of slashes of either kind may stand before
the host. -/
def read (text : String) : Except UrlError Url :=
  match readScheme? (clean text.toList) with
  | none => .error .relative
  | some (scheme, rest) =>
    if scheme = "file" then readFile rest
    else if isSpecial scheme then readFromHost scheme (rest.dropWhile isSlash)
    else
      match rest with
      | '/' :: '/' :: rest => readFromHost scheme rest
      | _ => .ok (readWithoutHost scheme rest)

end TelemetryRelay.Url
