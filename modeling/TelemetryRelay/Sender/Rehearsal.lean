import TelemetryRelay.Sender.Step

namespace TelemetryRelay

/-- A sender and the answers its server will give, which are favourable once they run out. Each call
of its one caller is followed by the steps of the others until nothing more happens by itself, or
until the drain waits for an answer that is held back. -/
structure Rehearsal where
  sender : Sender
  lineAnswers : List Sender.LineAnswer := []
  batchAnswers : List Bool := []
  held : Bool := false

namespace Rehearsal
open Sender (Event Owner LineAnswer Deed)

def start (spool : Spool) (lineAnswers : List LineAnswer) (batchAnswers : List Bool) :
    Rehearsal :=
  { sender := Sender.start spool, lineAnswers, batchAnswers }

def tell (e : Event) (r : Rehearsal) : Rehearsal :=
  match r.sender.step e with
  | some sender => { r with sender }
  | none => r

def isSending (r : Rehearsal) : Bool :=
  match r.sender.drain with
  | .sending _ => true
  | _ => false

def answerLine (r : Rehearsal) : Rehearsal :=
  match r.lineAnswers with
  | [] => r.tell (.lineAnswer .accepted)
  | a :: rest => { r with lineAnswers := rest }.tell (.lineAnswer a)

def drainFor : Nat → Rehearsal → Rehearsal
  | 0, r => r
  | fuel + 1, r =>
    if r.isSending then if r.held then r else drainFor fuel r.answerLine
    else
      match r.sender.step .drainStep with
      | none => r
      | some sender => drainFor fuel { r with sender }

def drain (r : Rehearsal) : Rehearsal :=
  drainFor (7 * (r.sender.queue.size + 2)) r

def submit (record : Record) (r : Rehearsal) : Rehearsal :=
  let number := r.sender.submitted
  let call := Nat.repeat (tell (.submitStep number)) 3 (r.tell (.submit record))
  call.drain

def hold (r : Rehearsal) : Rehearsal :=
  { r with held := true }

def release (r : Rehearsal) : Rehearsal :=
  { r with held := false }.drain

def offer (r : Rehearsal) : Rehearsal :=
  match r.batchAnswers with
  | [] => r.tell (.offerBatch true)
  | a :: rest => { r with batchAnswers := rest }.tell (.offerBatch a)

def replay (owner : Owner) (r : Rehearsal) : Except FileError ReplayOutcome × Rehearsal :=
  match r.sender.spool.beginReplay.1 with
  | .nothing => (.ok {}, r.tell (.beginReplay owner))
  | .failed e => (.error e, r.tell (.beginReplay owner))
  | .started begun =>
    let r := Nat.repeat offer begun.ahead.length (r.tell (.beginReplay owner))
    let outcome := match r.sender.replaying with
      | some (_, replay) => replay.outcome
      | none => {}
    (.ok outcome, (r.tell .settleReplay).tell (.countReplay owner outcome.linesSent))

def replayNow (r : Rehearsal) : Except FileError ReplayOutcome × Rehearsal :=
  r.replay .caller

def wake (r : Rehearsal) : Rehearsal :=
  ((r.tell .replayerWakes).replay .replayer).2

def wakeUntil (lines : Nat) : Nat → Rehearsal → Rehearsal
  | 0, r => r
  | fuel + 1, r =>
    if lines ≤ r.sender.counters.replayed then r else wakeUntil lines fuel r.wake

/-- Waits for the replayer to have sent `lines` lines in all. Every replay that does not empty the
spool uses up an answer. -/
def awaitReplayed (lines : Nat) (r : Rehearsal) : Rehearsal :=
  r.wakeUntil lines (r.batchAnswers.length + 2)

def stopFor : Nat → Rehearsal → Rehearsal
  | 0, r => r
  | fuel + 1, r => if r.sender.stop = .done then r else stopFor fuel (r.tell .stopStep)

/-- Stops the sender. An answer that is held back comes once the sender no longer runs. -/
def shutdown (r : Rehearsal) : Rehearsal :=
  if r.sender.stop = .done then r
  else
    let r := ((r.tell .stopStep).tell .stopStep).release.tell .replayerWakes
    r.stopFor (3 * r.sender.queue.size + 3)

def disturb (change : SpoolFiles → SpoolFiles) (r : Rehearsal) : Rehearsal :=
  { r with sender := { r.sender with spool :=
      { r.sender.spool with files := change r.sender.spool.files } } }

def news (known : Nat) (r : Rehearsal) : List Deed :=
  (r.sender.journal.take (r.sender.journal.length - known)).reverse

end Rehearsal
end TelemetryRelay
