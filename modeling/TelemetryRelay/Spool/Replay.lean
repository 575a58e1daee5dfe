import TelemetryRelay.Gzip.Stream
import TelemetryRelay.Spool.Basic

namespace TelemetryRelay

structure ReplayOutcome where
  batchesSent : Nat := 0
  batchesFailed : Nat := 0
  linesSent : Nat := 0
  linesRetained : Nat := 0
  deriving Repr, DecidableEq

def ReplayOutcome.isNoop (o : ReplayOutcome) : Bool :=
  o.batchesSent == 0 && o.batchesFailed == 0

def ReplayOutcome.count (accepted : Bool) (lines : Nat) (o : ReplayOutcome) : ReplayOutcome :=
  if accepted then
    { o with batchesSent := o.batchesSent + 1, linesSent := o.linesSent + lines }
  else
    { o with batchesFailed := o.batchesFailed + 1, linesRetained := o.linesRetained + lines }

/-- A replay that has begun: the batches without an answer, the next one first, and the refused
ones, the last one first. -/
structure Replay where
  ahead : List (List Bytes)
  refused : List (List Bytes) := []
  outcome : ReplayOutcome := {}
  deriving Repr, DecidableEq

namespace Replay

def retained (r : Replay) : List Bytes :=
  r.refused.reverse.flatten

def answer (accepted : Bool) (r : Replay) : Replay :=
  match r.ahead with
  | [] => r
  | batch :: ahead =>
    { ahead
      refused := if accepted then r.refused else batch :: r.refused
      outcome := r.outcome.count accepted batch.length }

def settle (r : Replay) (files : SpoolFiles) : SpoolFiles :=
  { files with
    spool := if r.outcome.batchesFailed = 0 then .absent else .file (Spool.ofLines r.retained)
    temporary := .absent }

end Replay

namespace Spool

/-- Opens the spool for a replay and makes the temporary file anew; without anything to replay
nothing is touched. A directory at the spool's path shows only after that, when it is read. -/
def openForReplay (s : Spool) : Except FileError (Option Bytes) × Spool :=
  match s.hindrance s.names.lookup with
  | some e => (.error e, s)
  | none =>
    match s.files.spool, s.names.temporary, s.files.temporary with
    | .absent, _, _ | .file [], _, _ => (.ok none, s)
    | _, some e, _ => (.error e, s)
    | _, _, .directory => (.error .isDirectory, s)
    | .directory, _, _ =>
      (.error .isDirectory, { s with files := { s.files with temporary := .file [] } })
    | .file content, _, _ =>
      (.ok (some content), { s with files := { s.files with temporary := .file [] } })

inductive Beginning where
  | nothing
  | failed (error : FileError)
  | started (replay : Replay)
  deriving Repr, DecidableEq

def beginReplay (s : Spool) : Beginning × Spool :=
  match s.openForReplay with
  | (.error e, s) => (.failed e, s)
  | (.ok none, s) => (.nothing, s)
  | (.ok (some content), s) =>
    (.started { ahead := Text.groups s.batchLines (lines content) }, s)

/-- A replay that reads the spool; the lines that have been read and not yet offered are in `batch`,
the last one first. -/
structure Reading where
  batch : List Bytes := []
  replay : Replay := { ahead := [] }

section Reading
variable {σ : Type} (send : Bytes → σ → Bool × σ)

def Reading.flush (r : Reading) (t : σ) : Reading × σ :=
  let batch := r.batch.reverse
  match send (Gzip.compressBatch batch) t with
  | (accepted, t) => ({ replay := { r.replay with ahead := [batch] }.answer accepted }, t)

def Reading.take (size : Nat) (piece : Bytes) (r : Reading) (t : σ) : Reading × σ :=
  let line := trimLine piece
  if line.isEmpty then (r, t)
  else
    let r := { r with batch := line :: r.batch }
    if r.batch.length = size then r.flush send t else (r, t)

def Reading.takeAll (size : Nat) : List Bytes → Reading → σ → Reading × σ
  | [], r, t => if r.batch.isEmpty then (r, t) else r.flush send t
  | piece :: rest, r, t =>
    match r.take send size piece t with
    | (r, t) => takeAll size rest r t

/-- Replays the spool line by line; `send` delivers a batch and answers whether it was accepted. The
lines of refused batches take the place of the spool at the end, and without any the spool is
removed. -/
def replay (s : Spool) (t : σ) : Except FileError ReplayOutcome × Spool × σ :=
  match s.openForReplay with
  | (.error e, s) => (.error e, s, t)
  | (.ok none, s) => (.ok {}, s, t)
  | (.ok (some content), s) =>
    match Reading.takeAll send s.batchLines (content.splitOn lineFeed) {} t with
    | (r, t) => (.ok r.replay.outcome, { s with files := r.replay.settle s.files }, t)

end Reading

end Spool
end TelemetryRelay
