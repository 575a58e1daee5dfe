import TelemetryRelay.Sampling.Channel
import TelemetryRelay.Sampling.Sampler

namespace TelemetryRelay

structure CycleSummary where
  read : Nat := 0
  failed : Nat := 0
  deriving Repr, DecidableEq

/-- A sampler with the state of its channels. `filterAlpha` is the weight of a new reading in
smoothing, absent without smoothing, and `lastFix` the latest position that can be used. -/
structure Collector (σ : Type) where
  sampler : σ
  channels : List Channel
  filterAlpha : Option Float
  retries : Nat
  lastFix : Option GpsFix := none

namespace Collector
variable {σ : Type} [Sampler σ]

def ofSettings (sampler : σ) (channels : List ChannelSettings) (s : SamplingSettings) :
    Collector σ :=
  { sampler
    channels := channels.map Channel.ofSettings
    filterAlpha := if s.filterEnabled then some s.filterAlpha else none
    retries := s.readRetries }

/-- Reads a channel, and again after a failed read for as long as retries are left. A channel that
does not exist is not read again. -/
def readWithRetry (index : Nat) : Nat → σ → Except SamplerError Int32 × σ
  | 0, s => Sampler.readChannel s index
  | left + 1, s =>
    match Sampler.readChannel s index with
    | (.error (.read _ _), s) => readWithRetry index left s
    | answer => answer

def settle (alpha : Option Float) (c : Channel) : Except SamplerError Int32 → Channel
  | .error _ => c.markUnavailable
  | .ok raw =>
    match alpha with
    | none => c.update raw
    | some a => (c.update raw).smooth a

def readChannels (alpha : Option Float) (retries : Nat) :
    Nat → List Channel → σ → CycleSummary → List Channel × CycleSummary × σ
  | _, [], s, summary => ([], summary, s)
  | index, c :: rest, s, summary =>
    if c.enabled then
      match readWithRetry index retries s with
      | (answer, s) =>
        let summary := match answer with
          | .ok _ => { summary with read := summary.read + 1 }
          | .error _ => { summary with failed := summary.failed + 1 }
        match readChannels alpha retries (index + 1) rest s summary with
        | (rest, summary, s) => (settle alpha c answer :: rest, summary, s)
    else
      match readChannels alpha retries (index + 1) rest s summary with
      | (rest, summary, s) => (c :: rest, summary, s)

/-- Runs one cycle: each enabled channel is read once, with retries, and the position is asked for.
One that is missing or cannot be used leaves the one before. -/
def collect (c : Collector σ) : CycleSummary × Collector σ :=
  match readChannels c.filterAlpha c.retries 0 c.channels c.sampler {} with
  | (channels, summary, sampler) =>
    match Sampler.readGps sampler with
    | (report, sampler) =>
      let lastFix := match report with
        | some fix => if fix.isValid then some fix else c.lastFix
        | none => c.lastFix
      (summary, { c with sampler, channels, lastFix })

end Collector
end TelemetryRelay
