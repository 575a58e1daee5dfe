namespace TelemetryRelay

inductive DeliveryError where
  | invalidEndpoint (detail : String)
  | invalidClient (detail : String)
  | unanswered
  | rejected (status : Nat) (body : String)
  deriving Repr, DecidableEq

def DeliveryError.message : DeliveryError → String
  | invalidEndpoint detail => "Invalid endpoint URL: " ++ detail
  | invalidClient detail => "Failed to build HTTP client: " ++ detail
  | unanswered => "Request failed"
  | rejected status body => "HTTP " ++ toString status ++ ": " ++ body

end TelemetryRelay
