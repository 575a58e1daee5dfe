import TelemetryRelay.Sender.Basic

namespace TelemetryRelay.Sender

inductive LineAnswer where
  | accepted
  | refused
  | broken
  deriving Repr, DecidableEq

/-- What happens next: calls, drain, replayer and stopping do their next step, an answer comes, or
the place of the spool's files is lost or comes back. -/
inductive Event where
  | submit (record : Record)
  | submitStep (number : Nat)
  | drainStep
  | lineAnswer (answer : LineAnswer)
  | replayerWakes
  | beginReplay (owner : Owner)
  | offerBatch (accepted : Bool)
  | settleReplay
  | countReplay (owner : Owner) (lines : Nat)
  | stopStep
  | reach (possible : Bool)
  deriving Repr, DecidableEq

def note (deed : Deed) (s : Sender) : Sender :=
  { s with journal := deed :: s.journal }

def count (fate : Fate) (s : Sender) : Sender :=
  { s with counters := s.counters.count fate }

/-- Appends a record to the spool, unless a replay holds it. -/
def spoolRecord (sub : Submission) (s : Sender) : Option (Fate × Sender) :=
  if s.replaying.isSome then none
  else
    match s.spool.append sub.record.text with
    | (.ok (), spool) => some (.spooled, { s with spool }.note (.spooled sub))
    | (.error _, spool) => some (.dropped, { s with spool }.note (.dropped sub))

def drainStep (s : Sender) : Option Sender :=
  match s.drain with
  | .idle =>
    match s.queue.dequeue with
    | (.item sub, queue) => some { s with queue, drain := .taken sub }
    | (.finished, _) => some { s with drain := .finished }
    | (.waiting, _) => none
  | .taken sub => some { s with drain := if s.running then .clear sub else .spooling sub }
  | .clear sub => some ({ s with drain := .sending sub }.note (.attempted sub))
  | .sending _ => none
  | .spooling sub =>
    (s.spoolRecord sub).map fun (fate, s) => { s with drain := .counting fate }
  | .counting fate => some { s.count fate with drain := .idle }
  | .finished | .died _ => none

def lineAnswer (answer : LineAnswer) (s : Sender) : Option Sender :=
  match s.drain with
  | .sending sub =>
    match answer with
    | .accepted => some ({ s with drain := .counting .sent }.note (.sent sub))
    | .refused => some { s with drain := .spooling sub }
    | .broken => some ({ s with drain := .died sub }.note (.lost sub))
  | _ => none

def withStage (s : Sender) (call : SubmitCall) (stage : SubmitStage) : Sender :=
  { s with submits := s.submits.map fun c => if c = call then { call with stage } else c }

def submitStep (call : SubmitCall) (s : Sender) : Option Sender :=
  match call.stage with
  | .entered => some (s.withStage call (if s.running then .queueing else .spooling))
  | .queueing =>
    some ({ s with
      queue := s.queue.enqueue call.submission
      submits := s.submits.erase call }.note (.queued call.submission))
  | .spooling =>
    (s.spoolRecord call.submission).map fun (fate, s) => s.withStage call (.counting fate)
  | .counting fate => some { s.count fate with submits := s.submits.erase call }

/-- Whether a caller may use the sender: while it is being stopped nobody else does. -/
def admits (s : Sender) : Bool :=
  s.stop == .no || s.stop == .done

def unused (s : Sender) : Bool :=
  s.submits.isEmpty &&
    (match s.replaying with
      | some (.caller, _) => false
      | _ => true) &&
    s.uncounted.all fun (owner, _) => owner != .caller

def beginReplay (owner : Owner) (s : Sender) : Option Sender :=
  if s.replaying.isSome || !(if owner = .caller then s.admits else s.replayer == .ready) then none
  else
    let became := fun stage => if owner = .caller then s.replayer else stage
    match s.spool.beginReplay with
    | (.started r, spool) =>
      some { s with spool, replaying := some (owner, r), replayer := became .busy }
    | (.nothing, spool) | (.failed _, spool) => some { s with spool, replayer := became .resting }

def offerBatch (accepted : Bool) (s : Sender) : Option Sender :=
  match s.replaying with
  | some (owner, r) =>
    match r.ahead with
    | [] => none
    | batch :: _ =>
      some ({ s with replaying := some (owner, r.answer accepted) }.note (.offered batch accepted))
  | none => none

def settleReplay (s : Sender) : Option Sender :=
  match s.replaying with
  | some (owner, r) =>
    if r.ahead.isEmpty then
      some { s with
        spool := { s.spool with files := r.settle s.spool.files }
        replaying := none
        uncounted := (owner, r.outcome.linesSent) :: s.uncounted }
    else none
  | none => none

def countReplay (owner : Owner) (lines : Nat) (s : Sender) : Option Sender :=
  if (owner, lines) ∈ s.uncounted then
    some { s with
      uncounted := s.uncounted.erase (owner, lines)
      counters := { s.counters with replayed := s.counters.replayed + lines }
      replayer := if owner = .replayer then .resting else s.replayer }
  else none

/-- The next step of stopping. A sender that has been stopped stays as it is. -/
def stopStep (s : Sender) : Option Sender :=
  match s.stop with
  | .no => if s.unused then some { s with running := false, stop := .cleared } else none
  | .cleared => some { s with queue := s.queue.close, stop := .closed }
  | .closed =>
    if s.drain.isOver && s.replayer == .finished then some { s with stop := .sweeping } else none
  | .sweeping =>
    match s.queue.tryDequeue with
    | (none, _) => some { s with stop := .done }
    | (some sub, queue) => some { s with queue, stop := .spooling sub }
  | .spooling sub => (s.spoolRecord sub).map fun (fate, s) => { s with stop := .counting fate }
  | .counting fate => some { s.count fate with stop := .sweeping }
  | .done => some s

/-- The place of the spool's files is lost or comes back, but not during a replay: while the place
is lost every append and every replay fails. -/
def reach (possible : Bool) (s : Sender) : Option Sender :=
  if s.replaying.isSome then none
  else
    let files := { s.spool.files with reachable := possible }
    some { s with spool := { s.spool with files } }

/-- The state after an event, if it can happen. An event is one operation on the queue, on the
spool, on the server, on the flag that says whether the sender runs, or on a counter; those of
drain, replayer and callers come in any order that the state allows. -/
def step (s : Sender) : Event → Option Sender
  | .submit record =>
    if s.admits then
      some { s with
        submitted := s.submitted + 1
        submits := s.submits ++ [{ submission := ⟨s.submitted, record⟩ }] }
    else none
  | .submitStep number =>
    match s.submits.find? fun call => call.submission.number == number with
    | some call => s.submitStep call
    | none => none
  | .drainStep => s.drainStep
  | .lineAnswer answer => s.lineAnswer answer
  | .replayerWakes =>
    if s.replayer = .resting then
      some { s with replayer := if s.running then .ready else .finished }
    else none
  | .beginReplay owner => s.beginReplay owner
  | .offerBatch accepted => s.offerBatch accepted
  | .settleReplay => s.settleReplay
  | .countReplay owner lines => s.countReplay owner lines
  | .stopStep => s.stopStep
  | .reach possible => s.reach possible

def run (s : Sender) : List Event → Option Sender
  | [] => some s
  | e :: rest => (s.step e).bind fun s => run s rest

inductive Reachable (spool : Spool) : Sender → Prop where
  | start : Reachable spool (Sender.start spool)
  | next {s s' : Sender} (e : Event) : Reachable spool s → s.step e = some s' → Reachable spool s'

end TelemetryRelay.Sender
