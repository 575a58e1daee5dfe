namespace TelemetryRelay

/-- Items that wait, the oldest first. A closed queue lets those go who wait for an item in vain;
what it holds can still be taken, and more can still be put in. -/
structure DeliveryQueue (α : Type) where
  items : List α := []
  closed : Bool := false
  deriving Repr, DecidableEq

namespace DeliveryQueue
variable {α : Type}

/-- What a call that takes an item meets. It waits at a queue that is empty and open, and is
finished at one that is empty and closed. -/
inductive Answer (α : Type) where
  | item (a : α)
  | finished
  | waiting
  deriving Repr, DecidableEq

def size (q : DeliveryQueue α) : Nat :=
  q.items.length

def isEmpty (q : DeliveryQueue α) : Bool :=
  q.items.isEmpty

def enqueue (a : α) (q : DeliveryQueue α) : DeliveryQueue α :=
  { q with items := q.items ++ [a] }

def tryDequeue (q : DeliveryQueue α) : Option α × DeliveryQueue α :=
  match q.items with
  | [] => (none, q)
  | a :: rest => (some a, { q with items := rest })

def dequeue (q : DeliveryQueue α) : Answer α × DeliveryQueue α :=
  match q.items with
  | [] => (if q.closed then .finished else .waiting, q)
  | a :: rest => (.item a, { q with items := rest })

def close (q : DeliveryQueue α) : DeliveryQueue α :=
  { q with closed := true }

def drain (q : DeliveryQueue α) : List α × DeliveryQueue α :=
  (q.items, { q with items := [] })

def describe (q : DeliveryQueue α) : String :=
  "DeliveryQueue \x7b len: " ++ toString q.size ++ ", shutdown: " ++
    (if q.closed then "true" else "false") ++ " \x7d"

end DeliveryQueue
end TelemetryRelay
