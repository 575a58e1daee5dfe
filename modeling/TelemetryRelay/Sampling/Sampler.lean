import TelemetryRelay.Decimal.Binary64

namespace TelemetryRelay

inductive SamplerError where
  | invalidChannel (index : Nat)
  | read (channel : Nat) (reason : String)
  deriving Repr, DecidableEq

def SamplerError.message : SamplerError → String
  | invalidChannel index => "Channel " ++ toString index ++ " does not exist"
  | read channel reason => "Read failed on channel " ++ toString channel ++ ": " ++ reason

structure GpsFix where
  latitude : Float
  longitude : Float
  altitude : Float
  speed : Float

def GpsFix.isValid (fix : GpsFix) : Bool :=
  Binary64.isFinite fix.latitude && Binary64.isFinite fix.longitude &&
    Binary64.isFinite fix.altitude && Binary64.isFinite fix.speed

/-- A source of readings whose state is a `σ`. It gives a position only if there is a new one. -/
class Sampler (σ : Type) where
  channelCount : σ → Nat
  readChannel : σ → Nat → Except SamplerError Int32 × σ
  readGps : σ → Option GpsFix × σ

structure SimulatedSampler where
  channels : Nat
  value : Int32 := 16384
  gps : Option GpsFix := none

instance : Sampler SimulatedSampler where
  channelCount s := s.channels
  readChannel s index :=
    (if index < s.channels then .ok s.value else .error (.invalidChannel index), s)
  readGps s := (s.gps, s)

inductive Playback.Answer where
  | reading (raw : Int32)
  | failure (reason : String)
  | missing
  deriving Repr, DecidableEq

/-- A sampler that plays back recorded answers, one after the other for each channel; a channel
whose answers have run out does not exist. -/
structure Playback where
  answers : List (List Playback.Answer)
  gps : Option GpsFix := none

namespace Playback

def next (s : Playback) (index : Nat) : Playback.Answer × Playback :=
  match s.answers[index]? with
  | some (answer :: rest) => (answer, { s with answers := s.answers.set index rest })
  | _ => (.missing, s)

instance : Sampler Playback where
  channelCount s := s.answers.length
  readChannel s index :=
    match s.next index with
    | (.reading raw, s) => (.ok raw, s)
    | (.failure reason, s) => (.error (.read index reason), s)
    | (.missing, s) => (.error (.invalidChannel index), s)
  readGps s := (s.gps, s)

end Playback

/-- A sampler that also keeps the list of channels it was asked to read, the last one first. -/
structure Observed (σ : Type) where
  sampler : σ
  calls : List Nat := []

instance {σ : Type} [Sampler σ] : Sampler (Observed σ) where
  channelCount s := Sampler.channelCount s.sampler
  readChannel s index :=
    match Sampler.readChannel s.sampler index with
    | (answer, sampler) => (answer, { sampler, calls := index :: s.calls })
  readGps s :=
    match Sampler.readGps s.sampler with
    | (fix, sampler) => (fix, { s with sampler })

end TelemetryRelay
