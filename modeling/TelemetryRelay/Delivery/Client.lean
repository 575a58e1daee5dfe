import TelemetryRelay.Delivery.Endpoint
import TelemetryRelay.Text.Base64

namespace TelemetryRelay

structure Request where
  target : String
  authorization : String
  contentType : String := "text/plain; charset=utf-8"
  contentEncoding : Option String := none
  userAgent : String := "sensor-uplink/0.1.0"
  body : Bytes
  deriving Repr, DecidableEq

structure Response where
  status : Nat
  body : Bytes
  deriving Repr, DecidableEq

structure Client where
  url : Url
  token : String
  deriving Repr, DecidableEq

namespace Client

def isForbidden (c : Char) : Bool :=
  (c.toNat < 0x20 && c != '\t') || c.toNat = 0x7F

/-- The client for a database; the address is looked at before the token. -/
def ofSettings (s : DatabaseSettings) : Except DeliveryError Client := do
  let url ← Endpoint.writeUrl s.url s.org s.bucket
  if s.token.toList.any isForbidden then
    .error (.invalidClient "invalid token: failed to parse header value")
  else return { url, token := s.token }

def decoded? (part : String) : Option String :=
  Utf8.decode? (Percent.decode (Utf8.encode part))

def user? (c : Client) : Option (String × Option String) :=
  (decoded? c.url.user).bind fun user =>
    let password := c.url.password.bind decoded?
    if user.isEmpty && password.isNone then none else some (user, password)

/-- What authorizes a request: the user in the address if there is one, and otherwise the token.
Blanks at the end are no part of the value of a header field. -/
def authorization (c : Client) : String :=
  let value := match c.user? with
    | none => "Token " ++ c.token
    | some (user, password) =>
      "Basic " ++ String.ofList (Base64.encode (Utf8.encode (user ++ ":" ++ password.getD "")))
  String.ofList (Text.dropTrailing (fun c => c == ' ' || c == '\t') value.toList)

/-- The address that requests go to; a user who is in the authorization is not in it. -/
def requestUrl (c : Client) : Url :=
  if c.user?.isSome then { c.url with user := "", password := none } else c.url

def maxAddress : Nat := 65534

def isSendable (host : Host) : Bool :=
  !host.render.toList.any "\"\x60\x7b\x7d".toList.contains

def canSend (c : Client) : Bool :=
  (c.url.scheme == "http" || c.url.scheme == "https") && c.url.host.all isSendable &&
    c.requestUrl.render.utf8ByteSize ≤ maxAddress

def lineRequest (c : Client) (line : String) : Request :=
  { target := c.url.target, authorization := c.authorization, body := Utf8.encode line }

def batchRequest (c : Client) (stream : Bytes) : Request :=
  { target := c.url.target, authorization := c.authorization, contentEncoding := some "gzip",
    body := stream }

def maxErrorBody : Nat := 256

def isSuccess (status : Nat) : Bool :=
  200 ≤ status && status ≤ 299

/-- Whether a status has three digits and ends an exchange; other answers below `200` only announce
one, and the change of protocols ends it too. -/
def isFinal (status : Nat) : Bool :=
  status == 101 || (200 ≤ status && status ≤ 999)

def isBodiless (status : Nat) : Bool :=
  status == 101 || status == 204 || status == 304

def verdict (status : Nat) (text : String) : Except DeliveryError Unit :=
  if isSuccess status then .ok ()
  else .error (.rejected status (Utf8.truncate maxErrorBody text))

def delivered? (r : Response) : Option (Nat × String) :=
  if isFinal r.status then
    some (r.status, if isBodiless r.status then "" else Utf8.decodeLossy r.body)
  else none

/-- What a client learns of its exchange with a server: the status and the text of the answer, if its
request can be sent and is answered. -/
def exchange (c : Client) (server : Request → Option Response) (request : Request) :
    Option (Nat × String) :=
  if c.canSend then (server request).bind delivered? else none

def post (network : Request → Option (Nat × String)) (request : Request) :
    Except DeliveryError Unit :=
  match network request with
  | none => .error .unanswered
  | some (status, text) => verdict status text

def sendLine (c : Client) (network : Request → Option (Nat × String)) (line : String) :
    Except DeliveryError Unit :=
  post network (c.lineRequest line)

def sendBatch (c : Client) (network : Request → Option (Nat × String)) (stream : Bytes) :
    Except DeliveryError Unit :=
  post network (c.batchRequest stream)

def describe (c : Client) : String :=
  "HttpTransport \x7b write_url: " ++ Text.inspect c.url.render ++ ", .. \x7d"

end Client

/-- A one-line description for diagnostics, which does not give the token away. -/
def DatabaseSettings.describe (s : DatabaseSettings) : String :=
  "InfluxDbConfig \x7b url: " ++ Text.inspect s.url ++ ", org: " ++ Text.inspect s.org ++
    ", bucket: " ++ Text.inspect s.bucket ++ ", token: " ++ Text.inspect "<redacted>" ++ " \x7d"

end TelemetryRelay
