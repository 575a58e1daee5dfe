import TelemetryRelay.Delivery.Queue

namespace TelemetryRelay

inductive Taker where
  | looking
  | asleep
  | woken
  deriving Repr, DecidableEq

/-- A queue with the calls under way, and what it has taken in and given out, the oldest first. A
call that puts an item in wakes one sleeper afterwards, and one that closes the queue wakes all of
them afterwards; between its two steps others may come. `entering` and `closing` count the calls
that are between them. -/
structure WaitingRoom (α : Type) where
  queue : DeliveryQueue α := {}
  takers : List Taker := []
  entering : Nat := 0
  closing : Nat := 0
  entered : List α := []
  given : List α := []

namespace WaitingRoom
variable {α : Type}

/-- What happens next. Calls that take an item are named by their place among the takers: one that
looks at the queue ends with an item or without, or falls asleep, and a sleeper may stir by itself.
`wakeOne` names the sleeper it wakes, or nobody if nobody sleeps. -/
inductive Event (α : Type) where
  | enqueue (a : α)
  | wakeOne (place : Option Nat)
  | close
  | wakeAll
  | come
  | look (place : Nat)
  | stir (place : Nat)
  | tryDequeue

def hasSleeper (r : WaitingRoom α) : Bool :=
  r.takers.contains .asleep

def wake (place : Nat) (became : Taker) (r : WaitingRoom α) : Option (WaitingRoom α) :=
  if r.takers[place]? = some .asleep then some { r with takers := r.takers.set place became }
  else none

def look (place : Nat) (r : WaitingRoom α) : Option (WaitingRoom α) :=
  match r.takers[place]? with
  | some .looking | some .woken =>
    match r.queue.dequeue with
    | (.item a, queue) =>
      some { r with queue, takers := r.takers.eraseIdx place, given := r.given ++ [a] }
    | (.finished, _) => some { r with takers := r.takers.eraseIdx place }
    | (.waiting, _) => some { r with takers := r.takers.set place .asleep }
  | _ => none

def step (r : WaitingRoom α) : Event α → Option (WaitingRoom α)
  | .enqueue a =>
    some { r with
      queue := r.queue.enqueue a
      entering := r.entering + 1
      entered := r.entered ++ [a] }
  | .wakeOne place =>
    if r.entering = 0 then none
    else
      let r' := { r with entering := r.entering - 1 }
      match place with
      | some place => r'.wake place .woken
      | none => if r.hasSleeper then none else some r'
  | .close => some { r with queue := r.queue.close, closing := r.closing + 1 }
  | .wakeAll =>
    if r.closing = 0 then none
    else some { r with
      closing := r.closing - 1
      takers := r.takers.map fun t => if t = .asleep then .woken else t }
  | .come => some { r with takers := r.takers ++ [.looking] }
  | .look place => r.look place
  | .stir place => r.wake place .looking
  | .tryDequeue =>
    match r.queue.tryDequeue with
    | (some a, queue) => some { r with queue, given := r.given ++ [a] }
    | (none, _) => some r

inductive Reachable : WaitingRoom α → Prop where
  | empty : Reachable {}
  | next {r r' : WaitingRoom α} (e : Event α) : Reachable r → r.step e = some r' → Reachable r'

end WaitingRoom
end TelemetryRelay
