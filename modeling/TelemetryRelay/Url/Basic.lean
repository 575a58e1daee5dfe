import TelemetryRelay.Url.Host

namespace TelemetryRelay

inductive UrlPath where
  | rootless (text : String)
  | segments (names : List String)
  deriving Repr, DecidableEq

structure Url where
  scheme : String
  user : String := ""
  password : Option String := none
  host : Option Host := none
  port : Option Nat := none
  path : UrlPath
  query : Option String := none
  fragment : Option String := none
  deriving Repr, DecidableEq

namespace Url

def defaultPort? (scheme : String) : Option Nat :=
  [("http", 80), ("https", 443), ("ws", 80), ("wss", 443), ("ftp", 21)].lookup scheme

/-- Whether addresses of a scheme always have a host and a path, and may be written with
backslashes. -/
def isSpecial (scheme : String) : Bool :=
  scheme == "file" || (defaultPort? scheme).isSome

def renderPath : UrlPath → String
  | .rootless text => text
  | .segments names => String.join (names.map fun name => "/" ++ name)

def renderUser (u : Url) : String :=
  match u.password with
  | some password => u.user ++ ":" ++ password ++ "@"
  | none => if u.user.isEmpty then "" else u.user ++ "@"

/-- What stands between the scheme and the path. Without a host, a path that begins with an empty
name has a point in front, so that it is not taken for a host. -/
def renderAuthority (u : Url) : String :=
  match u.host with
  | some host =>
    let port := match u.port with
      | some n => ":" ++ toString n
      | none => ""
    "//" ++ u.renderUser ++ host.render ++ port
  | none =>
    match u.path with
    | .segments ("" :: _ :: _) => "/."
    | _ => ""

def renderMarked (mark : String) : Option String → String
  | some text => mark ++ text
  | none => ""

def target (u : Url) : String :=
  renderPath u.path ++ renderMarked "?" u.query

def render (u : Url) : String :=
  u.scheme ++ ":" ++ u.renderAuthority ++ u.target ++ renderMarked "#" u.fragment

def addPairs (pairs : List Char) (u : Url) : Url :=
  let text := String.ofList pairs
  match u.query with
  | none => { u with query := some text }
  | some before =>
    { u with query := some (if before.isEmpty then text else before ++ "&" ++ text) }

end Url
end TelemetryRelay
