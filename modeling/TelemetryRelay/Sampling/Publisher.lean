import TelemetryRelay.Record.Builder
import TelemetryRelay.Sampling.Channel
import TelemetryRelay.Sampling.Sampler

namespace TelemetryRelay

structure Publisher where
  builder : Builder := {}
  measurement : String
  sourceTag : String

namespace Publisher

def ofSettings (s : SamplingSettings) : Publisher :=
  { measurement := s.measurement, sourceTag := s.sourceTag }

def performAll (now : Int64) (b : Builder) : List Builder.Call → Builder.Reply Unit
  | [] => (.ok (), b)
  | call :: rest =>
    match b.perform now call with
    | (.ok (), b) => performAll now b rest
    | (.error e, b) => (.error e, b)

/-- Writes a field for each enabled channel with a value; a value that cannot be written, as after
an overflow, is left out. -/
def addChannels (b : Builder) : List Channel → Builder.Reply Unit
  | [] => (.ok (), b)
  | c :: rest =>
    match c.enabled, c.value with
    | true, some v =>
      match b.addField c.id (.double v) with
      | (.error e, b) => if e = .invalidParameter then addChannels b rest else (.error e, b)
      | (.ok (), b) => addChannels b rest
    | _, _ => addChannels b rest

def positionFields (fix : GpsFix) : List (String × Float) :=
  [("latitude", fix.latitude), ("longitude", fix.longitude), ("altitude", fix.altitude),
    ("speed", fix.speed)]

/-- The calls that write a position; parts that are not finite are left out. -/
def positionCalls : Option GpsFix → List Builder.Call
  | none => []
  | some fix =>
    ((positionFields fix).filter fun (_, v) => Binary64.isFinite v).map
      fun (key, v) => .addField key (.double v)

/-- Writes one record into the builder, which is emptied first. -/
def write (now : Int64) (p : Publisher) (channels : List Channel) (fix : Option GpsFix) :
    Builder.Reply Unit :=
  match performAll now p.builder
      [.reset, .setMeasurement p.measurement, .addTag "source" p.sourceTag] with
  | (.error e, b) => (.error e, b)
  | (.ok (), b) =>
    match addChannels b channels with
    | (.error e, b) => (.error e, b)
    | (.ok (), b) => performAll now b (positionCalls fix ++ [.setTimestampNow, .finalize])

def build (now : Int64) (p : Publisher) (channels : List Channel) (fix : Option GpsFix) :
    Except RecordError Record × Publisher :=
  match p.write now channels fix with
  | (.ok (), builder) => (.ok ⟨builder.text⟩, { p with builder })
  | (.error e, builder) => (.error e, { p with builder })

def publish {σ : Type} (submit : Record → σ → σ) (now : Int64) (p : Publisher)
    (channels : List Channel) (fix : Option GpsFix) (s : σ) :
    Except RecordError Unit × Publisher × σ :=
  match p.build now channels fix with
  | (.ok record, p) => (.ok (), p, submit record s)
  | (.error e, p) => (.error e, p, s)

end Publisher
end TelemetryRelay
