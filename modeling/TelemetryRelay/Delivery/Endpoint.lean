import TelemetryRelay.Delivery.Error
import TelemetryRelay.Settings.Basic
import TelemetryRelay.Text.Inspect
import TelemetryRelay.Url.Form
import TelemetryRelay.Url.Reader

namespace TelemetryRelay.Endpoint

def servicePath : String := "/api/v2/write"

def address (base : String) : String :=
  String.ofList (Text.dropTrailing (· == '/') base.toList) ++ servicePath

def parameters (org bucket : String) : List (String × String) :=
  [("org", org), ("bucket", bucket), ("precision", "s")]

/-- The address that records are written to: the base address without slashes at its end, the path
of the write service, and the organisation, the bucket and the precision of times in the query. -/
def writeUrl (base org bucket : String) : Except DeliveryError Url :=
  match Url.read (address base) with
  | .ok url => .ok (url.addPairs (Form.encode (parameters org bucket)))
  | .error e => .error (.invalidEndpoint (address base ++ ": " ++ e.message))

end TelemetryRelay.Endpoint
