import TelemetryRelay.Delivery.Queue
import TelemetryRelay.Record.Basic
import TelemetryRelay.Spool.Replay

namespace TelemetryRelay

structure Submission where
  number : Nat
  record : Record
  deriving Repr, DecidableEq

namespace Sender

structure Counters where
  sent : Nat := 0
  spooled : Nat := 0
  dropped : Nat := 0
  replayed : Nat := 0
  deriving Repr, DecidableEq

inductive Fate where
  | sent
  | spooled
  | dropped
  deriving Repr, DecidableEq

def Counters.count (c : Counters) : Fate → Counters
  | .sent => { c with sent := c.sent + 1 }
  | .spooled => { c with spooled := c.spooled + 1 }
  | .dropped => { c with dropped := c.dropped + 1 }

/-- How far the drain has come. With a record `taken` it has not yet looked whether the sender runs,
and at `clear` it has seen that it does; it waits for an answer while `sending`, and has `died` if
it broke down there. -/
inductive Drain where
  | idle
  | taken (s : Submission)
  | clear (s : Submission)
  | sending (s : Submission)
  | spooling (s : Submission)
  | counting (fate : Fate)
  | finished
  | died (s : Submission)
  deriving Repr, DecidableEq

def Drain.isOver : Drain → Bool
  | .finished | .died _ => true
  | _ => false

/-- How far a call that submits a record has come. At `entered` it has not yet looked whether the
sender runs. -/
inductive SubmitStage where
  | entered
  | queueing
  | spooling
  | counting (fate : Fate)
  deriving Repr, DecidableEq

structure SubmitCall where
  submission : Submission
  stage : SubmitStage := .entered
  deriving Repr, DecidableEq

inductive Owner where
  | replayer
  | caller
  deriving Repr, DecidableEq

/-- How far the replayer has come. It is `ready` once it has seen that the sender runs, and `busy`
until it has counted what it replayed. -/
inductive Replayer where
  | resting
  | ready
  | busy
  | finished
  deriving Repr, DecidableEq

/-- How far stopping has come. The sender no longer runs from `cleared` on, and the queue is closed
as well from `closed` on; what is left in it is taken once drain and replayer are over. -/
inductive Stop where
  | no
  | cleared
  | closed
  | sweeping
  | spooling (s : Submission)
  | counting (fate : Fate)
  | done
  deriving Repr, DecidableEq

/-- Something that happened to a record or a batch. A record is `attempted` when sending it begins,
`dropped` if it cannot be appended to the spool, and `lost` if the drain breaks down with it. -/
inductive Deed where
  | queued (s : Submission)
  | attempted (s : Submission)
  | sent (s : Submission)
  | spooled (s : Submission)
  | dropped (s : Submission)
  | lost (s : Submission)
  | offered (batch : List Bytes) (accepted : Bool)
  deriving Repr, DecidableEq

end Sender

/-- A sender with everything that works on it at once: calls put records into the queue, a drain
sends them one by one and appends to the spool what cannot be sent, and a replayer offers the spool
from time to time. `replaying` is the replay that holds the spool, `uncounted` are the lines that
replays have sent and not yet counted, and the `journal` has the latest deed first. -/
structure Sender where
  spool : Spool
  queue : DeliveryQueue Submission := {}
  running : Bool := true
  drain : Sender.Drain := .idle
  replayer : Sender.Replayer := .resting
  replaying : Option (Sender.Owner × Replay) := none
  uncounted : List (Sender.Owner × Nat) := []
  submits : List Sender.SubmitCall := []
  stop : Sender.Stop := .no
  counters : Sender.Counters := {}
  submitted : Nat := 0
  journal : List Sender.Deed := []
  deriving Repr, DecidableEq

namespace Sender

def start (spool : Spool) : Sender :=
  { spool }

def describe (path : String) (s : Sender) : String :=
  "Sender \x7b running: " ++ (if s.running then "true" else "false") ++ ", queued: " ++
    toString s.queue.size ++ ", spool: " ++ path ++ ", .. \x7d"

end Sender
end TelemetryRelay
