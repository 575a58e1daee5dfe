import Mathlib.Data.List.Induction
import TelemetryRelay.Proofs.Sampling.Composing
import TelemetryRelay.Proofs.Sampling.Recording
import TelemetryRelay.Proofs.Settings.Rules

namespace TelemetryRelay

/-- A collector and the publisher of what it collects. -/
structure Pipeline (σ : Type) where
  collector : Collector σ
  publisher : Publisher

/-- The weight of a new reading, absent if readings are not smoothed. -/
def SamplingSettings.alpha (s : SamplingSettings) : Option Float :=
  if s.filterEnabled then some s.filterAlpha else none

namespace Settings

/-- The field of a channel after its answers: there is one if the channel is enabled, was read in
the last cycle and has a finite value. -/
def channelField (s : Settings) (c : ChannelSettings) (answers : List Answer) :
    Option (String × Float) :=
  if c.enabled then
    ((Channel.currentValue s.sampling.alpha ⟨c.slope, c.offset⟩ answers).filter
      Binary64.isFinite).map fun v => (c.id, v)
  else none

/-- The fields after some cycles: those of the channels in order, and the parts of the latest usable
position. -/
def fields (s : Settings) (heard : List Cycle) : List (String × Float) :=
  (s.channels.mapIdx fun i c => s.channelField c (heard.map (·.answer i))).filterMap id ++
    (latestFix heard).elim [] Publisher.positionFields

end Settings

namespace Pipeline
variable {σ : Type} [Sampler σ]

def ofSettings (sampler : σ) (s : Settings) : Pipeline σ where
  collector := .ofSettings sampler s.channels s.sampling
  publisher := .ofSettings s.sampling

/-- Collects once and makes the record while the clock shows `now`. -/
def cycle (now : Int64) (p : Pipeline σ) : Except RecordError Record × Pipeline σ :=
  let collector := p.collector.collect.2
  let built := p.publisher.build now collector.channels collector.lastFix
  (built.1, { collector, publisher := built.2 })

/-- The pipeline after one cycle at each time of the clock. -/
def after (p : Pipeline σ) (clock : List Int64) : Pipeline σ :=
  clock.foldl (fun p now => (p.cycle now).2) p

/-- What the answers of a sampler to a station with these settings are. -/
def heard (s : Settings) (count : Nat) (sampler : σ) : List Cycle :=
  (Collector.cycles s.sampling.readRetries (s.channels.map (·.enabled)) count sampler).1

theorem collects_ofSettings (s : Settings) (sampler : σ) (count : Nat) :
    let c := (Collector.ofSettings sampler s.channels s.sampling).collects count
    c.channels = s.channels.mapIdx (fun i channel =>
        ((heard s count sampler).map (·.answer i)).foldl (Channel.observe s.sampling.alpha)
          (.ofSettings channel)) ∧
      c.lastFix = latestFix (heard s count sampler) := by
  intro c
  have enabled : (s.channels.map Channel.ofSettings).map (·.enabled) =
      s.channels.map (·.enabled) := by
    rw [List.map_map]
    rfl
  have eq := (Collector.ofSettings sampler s.channels s.sampling).collects_eq count
  simp only [Collector.ofSettings, enabled] at eq
  constructor
  · exact (congrArg Collector.channels eq).trans
      (List.ext_getElem (by simp) fun i _ _ => by
        rw [List.getElem_mapIdx, List.getElem_mapIdx, List.getElem_map]
        rfl)
  · exact (congrArg Collector.lastFix eq).trans (Option.or_none ..)

theorem isSome_heard {s : Settings} {count index : Nat} {sampler : σ} {c : ChannelSettings}
    (at_ : s.channels[index]? = some c) :
    ∀ answer ∈ (heard s count sampler).map (·.answer index), answer.isSome = c.enabled := by
  intro answer mem
  obtain ⟨cycle, inside, rfl⟩ := List.mem_map.mp mem
  rw [Collector.isSome_answer inside, List.getElem?_map, at_]
  rfl

theorem channelField_eq (s : Settings) {c : ChannelSettings} {answers : List Answer}
    (asked : c.enabled = true → ∀ answer ∈ answers, answer.isSome = true) :
    Publisher.channelField (answers.foldl (Channel.observe s.sampling.alpha) (.ofSettings c)) =
      s.channelField c answers := by
  obtain ⟨_, _, eq⟩ := Channel.foldl_observe_eq s.sampling.alpha (.ofSettings c) answers
  have enabled : (answers.foldl (Channel.observe s.sampling.alpha) (.ofSettings c)).enabled =
      c.enabled := congrArg Channel.enabled eq
  have id_ : (answers.foldl (Channel.observe s.sampling.alpha) (.ofSettings c)).id = c.id :=
    congrArg Channel.id eq
  rw [Publisher.channelField, Settings.channelField, enabled, id_]
  split
  next on => rw [Channel.value_foldl_observe s.sampling.alpha c (asked on)]
  next => rfl

/-- The fields that a publisher takes from the channels are those that the settings and the answers
tell. -/
theorem channelFields_collects (s : Settings) (sampler : σ) (count : Nat) :
    Publisher.channelFields
        ((Collector.ofSettings sampler s.channels s.sampling).collects count).channels =
      (s.channels.mapIdx fun i c =>
        s.channelField c ((heard s count sampler).map (·.answer i))).filterMap id := by
  rw [(collects_ofSettings s sampler count).1, Publisher.channelFields_eq]
  refine congrArg (List.filterMap id) (List.ext_getElem (by simp) fun i inside _ => ?_)
  rw [List.length_map, List.length_mapIdx] at inside
  rw [List.getElem_map, List.getElem_mapIdx, List.getElem_mapIdx]
  have at_ := List.getElem?_eq_getElem inside
  exact channelField_eq s fun on answer mem => (isSome_heard at_ answer mem).trans on

theorem fixFields_latestFix (cycles : List Cycle) :
    Publisher.fixFields (latestFix cycles) =
      (latestFix cycles).elim [] Publisher.positionFields := by
  cases found : latestFix cycles with
  | none => rfl
  | some fix =>
    have valid : fix.isValid = true := (List.mem_filter.mp (List.mem_of_getLast? found)).2
    simp only [GpsFix.isValid, Bool.and_eq_true] at valid
    simp [Publisher.fixFields, Publisher.positionFields, valid]

theorem fields_collects (s : Settings) (sampler : σ) (count : Nat) :
    let c := (Collector.ofSettings sampler s.channels s.sampling).collects count
    Publisher.channelFields c.channels ++ Publisher.fixFields c.lastFix =
      s.fields (heard s count sampler) := by
  intro c
  rw [channelFields_collects, (collects_ofSettings s sampler count).2, fixFields_latestFix]
  rfl

theorem keys_collects {s : Settings} (keys : ∀ c ∈ s.channels, Name.isKey c.id = true) (sampler : σ)
    (count : Nat) :
    ∀ c ∈ ((Collector.ofSettings sampler s.channels s.sampling).collects count).channels,
      Name.isKey c.id = true := by
  intro c mem
  rw [(collects_ofSettings s sampler count).1] at mem
  obtain ⟨i, inside, rfl⟩ := List.mem_mapIdx.mp mem
  obtain ⟨_, _, eq⟩ := Channel.foldl_observe_eq s.sampling.alpha (.ofSettings s.channels[i])
    ((heard s count sampler).map (·.answer i))
  rw [eq]
  exact keys _ (List.getElem_mem inside)

/-- What every cycle keeps true of a pipeline. -/
structure Sound (s : Settings) (sampler : σ) (count : Nat) (p : Pipeline σ) : Prop where
  collector : p.collector = (Collector.ofSettings sampler s.channels s.sampling).collects count
  measurement : p.publisher.measurement = s.sampling.measurement
  sourceTag : p.publisher.sourceTag = s.sampling.sourceTag
  room : p.publisher.builder.Roomy

section
variable {s : Settings} {sampler : σ} {count : Nat} {p : Pipeline σ}
  (h : Sound s sampler count p)
include h

theorem Sound.collect_eq :
    p.collector.collect.2 =
      (Collector.ofSettings sampler s.channels s.sampling).collects (count + 1) := by
  rw [h.collector, Collector.collects_succ]

theorem Sound.fields_eq :
    Publisher.channelFields p.collector.collect.2.channels ++
        Publisher.fixFields p.collector.collect.2.lastFix =
      s.fields (heard s (count + 1) sampler) := by
  rw [h.collect_eq]
  exact fields_collects s sampler (count + 1)

theorem Sound.keys (keys : ∀ c ∈ s.channels, Name.isKey c.id = true) :
    ∀ c ∈ p.collector.collect.2.channels, Name.isKey c.id = true := by
  rw [h.collect_eq]
  exact keys_collects keys sampler (count + 1)

theorem Sound.cycle (keys : ∀ c ∈ s.channels, Name.isKey c.id = true) (now : Int64) :
    Sound s sampler (count + 1) (p.cycle now).2 := by
  have publisher := p.publisher.build_publisher now p.collector.collect.2.channels
    p.collector.collect.2.lastFix
  have room := Publisher.write_roomy h.room now p.collector.collect.2.lastFix (h.keys keys)
  constructor
  · exact h.collect_eq
  · exact (congrArg Publisher.measurement publisher).trans h.measurement
  · exact (congrArg Publisher.sourceTag publisher).trans h.sourceTag
  · exact (congrArg (fun p => p.builder.Roomy) publisher).mpr room

variable (accepted : s.validate = .ok ())
include accepted

theorem Sound.names :
    Name.isMeasurement p.publisher.measurement = true ∧
      Name.isKey p.publisher.sourceTag = true ∧
      ∀ c ∈ p.collector.collect.2.channels, Name.isKey c.id = true := by
  obtain ⟨named, tag, keys⟩ := Settings.names_of_validate accepted
  rw [h.measurement, h.sourceTag]
  exact ⟨named, tag, h.keys keys⟩

theorem Sound.answer (now : Int64) :
    let fields := s.fields (heard s (count + 1) sampler)
    let point := (Publisher.ofSettings s.sampling).point now fields
    (p.cycle now).1 =
      if Builder.maxSize < point.size then .error .bufferFull
      else if fields = [] then .error .invalidState
      else .ok ⟨String.ofList point.rendered⟩ := by
  obtain ⟨named, _, keys⟩ := h.names accepted
  have answer := Publisher.build_answer h.room named keys now p.collector.collect.2.lastFix
  have same (fields : List (String × Float)) : p.publisher.point now fields =
      (Publisher.ofSettings s.sampling).point now fields := by
    rw [Publisher.point, h.measurement, h.sourceTag]
    rfl
  simp only [h.fields_eq, same] at answer
  exact answer

theorem Sound.read {now : Int64} {record : Record} (built : (p.cycle now).1 = .ok record) :
    ∃ values,
      List.Forall₂ (fun field value => field.1 = value.1 ∧
          (FieldValue.double field.2).ReadsBack value.2)
        (s.fields (heard s (count + 1) sampler)) values ∧
      Point.read record.text = .ok
        { measurement := s.sampling.measurement
          tags := [("source", s.sampling.sourceTag)]
          fields := values
          timestamp := some now } := by
  obtain ⟨named, tag, keys⟩ := h.names accepted
  obtain ⟨values, alike, read⟩ := Publisher.read_of_build h.room named keys tag built
  rw [h.fields_eq] at alike
  rw [h.measurement, h.sourceTag] at read
  exact ⟨values, alike, read⟩

end

theorem sound_after {s : Settings} (keys : ∀ c ∈ s.channels, Name.isKey c.id = true) (sampler : σ)
    (clock : List Int64) : Sound s sampler clock.length ((ofSettings sampler s).after clock) := by
  induction clock using List.reverseRecOn with
  | nil => exact ⟨rfl, rfl, rfl, @Builder.withCapacity_roomy 1024 _ rfl⟩
  | append_singleton clock now ih =>
    rw [List.length_append, after, List.foldl_append]
    exact ih.cycle keys now

/-- A record is submitted as it was built, and nothing without one. -/
theorem publish_eq (p : Pipeline σ) (now : Int64) {τ : Type} (submit : Record → τ → τ) (sink : τ) :
    p.publisher.publish submit now p.collector.collect.2.channels p.collector.collect.2.lastFix
        sink =
      match (p.cycle now).1 with
      | .ok record => (.ok (), (p.cycle now).2.publisher, submit record sink)
      | .error e => (.error e, (p.cycle now).2.publisher, sink) := by
  unfold Publisher.publish
  split
  next eq => simp only [cycle, eq]
  next eq => simp only [cycle, eq]

/-- What is heard is what the log of the exchanges with the sampler tells, cycle by cycle. -/
theorem tells_heard (s : Settings) (sampler : σ) (count : Nat) :
    List.Forall₂ Exchange.Tells
      ((Collector.ofSettings sampler s.channels s.sampling).transcript count)
      (heard s count sampler) := by
  have enabled : (s.channels.map Channel.ofSettings).map (·.enabled) =
      s.channels.map (·.enabled) := by
    rw [List.map_map]
    rfl
  have tells := (Collector.ofSettings sampler s.channels s.sampling).tells_transcript count
  simp only [Collector.ofSettings, enabled] at tells
  exact tells

/-- What is published with accepted settings, whatever the sampler answers. Each cycle makes the
record of the source tag, of the channels that it read and of the latest position, unless there is
no field or the record would be too large; the record is read as that, and it is what is
submitted. What was read is taken from `heard`, and by `tells_heard` that is what the log of the
exchanges with the sampler tells. -/
theorem cycle_outcome {s : Settings} (accepted : s.validate = .ok ()) (sampler : σ)
    (earlier : List Int64) (now : Int64) :
    let p := (ofSettings sampler s).after earlier
    let fields := s.fields (heard s (earlier.length + 1) sampler)
    let point := (Publisher.ofSettings s.sampling).point now fields
    ((p.cycle now).1 =
      if Builder.maxSize < point.size then .error .bufferFull
      else if fields = [] then .error .invalidState
      else .ok ⟨String.ofList point.rendered⟩) ∧
    (∀ record, (p.cycle now).1 = .ok record → ∃ values,
      List.Forall₂ (fun field value => field.1 = value.1 ∧
        (FieldValue.double field.2).ReadsBack value.2) fields values ∧
      Point.read record.text = .ok
        { measurement := s.sampling.measurement
          tags := [("source", s.sampling.sourceTag)]
          fields := values
          timestamp := some now }) ∧
    ∀ (τ : Type) (submit : Record → τ → τ) (sink : τ),
      p.publisher.publish submit now p.collector.collect.2.channels p.collector.collect.2.lastFix
          sink =
        match (p.cycle now).1 with
        | .ok record => (.ok (), (p.cycle now).2.publisher, submit record sink)
        | .error e => (.error e, (p.cycle now).2.publisher, sink) := by
  intro p fields point
  have sound := sound_after (Settings.names_of_validate accepted).2.2 sampler earlier
  exact ⟨sound.answer accepted now, fun _ built => sound.read accepted built,
    fun _ submit sink => p.publish_eq now submit sink⟩

/-- Smoothed channels: one that is read, one that is disabled and one that does not exist. -/
def smoothedStation : Settings where
  database := { url := "http://db", org := "o", bucket := "b", token := "t" }
  sampling :=
    { measurement := "m", sourceTag := "s_1", filterEnabled := true, filterAlpha := 0.5,
      readRetries := 1 }
  channels :=
    [{ id := "a", slope := 2.0, offset := 1.0 }, { id := "b", enabled := false }, { id := "c" }]

/-- Two cycles, the first one with a read that has to be retried. -/
def scriptedAnswers : Playback where
  answers := [[.failure "busy", .reading 10, .reading 20], [.reading 5], []]
  gps := some { latitude := 1.5, longitude := -2.25, altitude := 0.0, speed := 0.5 }

theorem smoothedStation_outcome :
    let p := (ofSettings scriptedAnswers smoothedStation).after [100]
    let fields := smoothedStation.fields (heard smoothedStation 2 scriptedAnswers)
    let record : Record :=
      ⟨"m,source=s_1 a=31.000000,latitude=1.500000,longitude=-2.250000,altitude=0.000000," ++
        "speed=0.500000 160"⟩
    smoothedStation.validate = .ok () ∧
      fields.map (·.1) = ["a", "latitude", "longitude", "altitude", "speed"] ∧
      (p.cycle 160).1 = .ok record ∧
      ∃ values,
        List.Forall₂ (fun field value => field.1 = value.1 ∧
          (FieldValue.double field.2).ReadsBack value.2) fields values ∧
        Point.read record.text = .ok
          { measurement := "m", tags := [("source", "s_1")], fields := values,
            timestamp := some 160 } := by
  intro p fields record
  have accepted : smoothedStation.validate = .ok () := by decide +kernel
  have built : (p.cycle 160).1 = .ok record := by decide +kernel
  have read := (cycle_outcome accepted scriptedAnswers [100] 160).2.1
  exact ⟨accepted, by decide +kernel, built, read record built⟩

end Pipeline
end TelemetryRelay
