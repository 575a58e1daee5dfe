import TelemetryRelay.Record.Builder

namespace TelemetryRelay.Builder

/-- Doubles a capacity while it is below `required`, and gives all the capacities met, of which the
last one is enough. `none` if that takes more than the given number of turns. -/
def doublings? (required : UInt64) : Nat → UInt64 → Option (List UInt64)
  | 0, _ => none
  | turns + 1, capacity =>
    if capacity < required then (doublings? required turns (capacity * 2)).map (capacity :: ·)
    else some [capacity]

structure Demand where
  capacity : UInt64
  extra : UInt64
  deriving Repr, DecidableEq

def demand? (turns : Nat) (capacity length additional : UInt64) :
    Option (Except RecordError (Option Demand)) :=
  let required := length + additional
  if required < length then some (.error .bufferFull)
  else if required ≤ capacity then some (.ok none)
  else
    ((doublings? required turns (capacity * 2)).bind List.getLast?).map fun wanted =>
      if wanted ≤ .ofNat maxSize then .ok (some ⟨wanted, wanted - length⟩)
      else if required ≤ .ofNat maxSize then
        .ok (some ⟨.ofNat maxSize, .ofNat maxSize - length⟩)
      else .error .bufferFull

/-- Writes at the end in machine words: lengths and capacities have 64 bits, and doubling wraps
around beyond them. `grants` tells which numbers of bytes can be had. `none` if the capacity is not
found within the given number of turns. -/
def appendWithin (turns : Nat) (grants : UInt64 → Bool) (b : Builder) (text : String) :
    Option (Reply Unit) :=
  (demand? turns (.ofNat b.capacity) (.ofNat b.size) (.ofNat text.utf8ByteSize)).map fun
    | .error e => (.error e, b)
    | .ok none => (.ok (), { b with text := b.text ++ text })
    | .ok (some demand) =>
      if grants demand.extra then
        (.ok (), { b with text := b.text ++ text, capacity := demand.capacity.toNat })
      else (.error .outOfMemory, b)

end TelemetryRelay.Builder
