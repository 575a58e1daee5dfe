import TelemetryRelay.Proofs.Sampling.Pipeline

namespace TelemetryRelay

/-- The keys of the parts of a position. -/
def Publisher.positionKeys : List String :=
  ["latitude", "longitude", "altitude", "speed"]

theorem Publisher.map_fst_positionFields (fix : GpsFix) :
    (positionFields fix).map (·.1) = positionKeys :=
  rfl

namespace Settings

theorem ids_nodup_of_validate {s : Settings} (accepted : s.validate = .ok ()) :
    (s.channels.map (·.id)).Nodup :=
  (channelsFault_eq_none_iff.mp (validate_eq_ok_iff.mp accepted).2.1).2

/-- The ids of the channels that have a field after some cycles. -/
def shownIds (s : Settings) (heard : List Cycle) : List String :=
  ((s.channels.mapIdx fun i c => s.channelField c (heard.map (·.answer i))).filterMap id).map (·.1)

/-- Only an enabled channel has a field, and its key is the id. -/
theorem channelField_eq_some {s : Settings} {c : ChannelSettings} {answers : List Answer}
    {field : String × Float} (shown : s.channelField c answers = some field) :
    c.enabled = true ∧ field.1 = c.id := by
  unfold channelField at shown
  split at shown
  next on =>
    obtain ⟨v, _, rfl⟩ := Option.map_eq_some_iff.mp shown
    exact ⟨on, rfl⟩
  next => contradiction

theorem keys_sublist {channels : List ChannelSettings}
    {field : Nat → ChannelSettings → Option (String × Float)}
    (named : ∀ i c v, field i c = some v → v.1 = c.id) :
    (((channels.mapIdx field).filterMap id).map (·.1)).Sublist (channels.map (·.id)) := by
  induction channels generalizing field with
  | nil => exact .slnil
  | cons c rest ih =>
    have later := ih fun i => named (i + 1)
    rw [List.mapIdx_cons, List.map_cons]
    cases shown : field 0 c with
    | none => exact later.cons _
    | some v =>
      rw [← named 0 c v shown]
      exact later.cons_cons _

theorem shownIds_nodup {s : Settings} (accepted : s.validate = .ok ()) (heard : List Cycle) :
    (s.shownIds heard).Nodup :=
  (keys_sublist fun _ _ _ shown => (channelField_eq_some shown).2).nodup
    (ids_nodup_of_validate accepted)

theorem enabled_of_mem_shownIds {s : Settings} {heard : List Cycle} {id : String}
    (shown : id ∈ s.shownIds heard) : ∃ c ∈ s.channels, c.enabled = true ∧ c.id = id := by
  obtain ⟨field, mem, rfl⟩ := List.mem_map.mp shown
  obtain ⟨found, inside, eq⟩ := List.mem_filterMap.mp mem
  obtain ⟨i, bound, rfl⟩ := List.mem_mapIdx.mp inside
  obtain ⟨on, key⟩ := channelField_eq_some eq
  exact ⟨s.channels[i], List.getElem_mem bound, on, key.symm⟩

/-- The keys of the fields after some cycles. -/
theorem map_fst_fields (s : Settings) (heard : List Cycle) :
    (s.fields heard).map (·.1) =
      s.shownIds heard ++ if (latestFix heard).isSome then Publisher.positionKeys else [] := by
  rw [fields, List.map_append, shownIds]
  cases latestFix heard with
  | none => rfl
  | some fix => exact congrArg _ (Publisher.map_fst_positionFields fix)

theorem fields_nodup_iff {s : Settings} (accepted : s.validate = .ok ()) (heard : List Cycle) :
    ((s.fields heard).map (·.1)).Nodup ↔
      ((latestFix heard).isSome = true →
        ∀ id ∈ s.shownIds heard, id ∉ Publisher.positionKeys) := by
  have channels := s.shownIds_nodup accepted heard
  have position : Publisher.positionKeys.Nodup := by decide
  rw [map_fst_fields]
  cases known : (latestFix heard).isSome with
  | false => simpa using channels
  | true =>
    rw [if_pos rfl, List.nodup_append']
    simp only [channels, position, true_and, forall_const]
    rfl

end Settings

namespace Pipeline
variable {σ : Type} [Sampler σ]

theorem map_fst_eq_of_alike {fields : List (String × Float)} {values : List (String × FieldValue)}
    (alike : List.Forall₂ (fun field value => field.1 = value.1 ∧
      (FieldValue.double field.2).ReadsBack value.2) fields values) :
    fields.map (·.1) = values.map (·.1) := by
  induction alike with
  | nil => rfl
  | cons same _ ih => rw [List.map_cons, List.map_cons, same.1, ih]

/-- The keys of a record, for accepted settings and whatever the sampler answers: no two of them are
the same, unless a position is known and a channel that is called like a part of it has a field too.
Settings without such a channel never give a key twice. -/
theorem keys_nodup_iff {s : Settings} (accepted : s.validate = .ok ()) (sampler : σ)
    (earlier : List Int64) (now : Int64) {record : Record}
    (built : (((ofSettings sampler s).after earlier).cycle now).1 = .ok record) :
    let cycles := heard s (earlier.length + 1) sampler
    ∃ point, Point.read record.text = .ok point ∧
      ((point.fields.map (·.1)).Nodup ↔
        ((latestFix cycles).isSome = true →
          ∀ id ∈ s.shownIds cycles, id ∉ Publisher.positionKeys)) ∧
      ((∀ c ∈ s.channels, c.enabled = true → c.id ∉ Publisher.positionKeys) →
        (point.fields.map (·.1)).Nodup) := by
  intro cycles
  have sound := sound_after (Settings.names_of_validate accepted).2.2 sampler earlier
  obtain ⟨values, alike, read⟩ := sound.read accepted built
  have distinct := s.fields_nodup_iff accepted cycles
  rw [map_fst_eq_of_alike alike] at distinct
  refine ⟨_, read, distinct, fun other => distinct.mpr fun _ id shown => ?_⟩
  obtain ⟨c, mem, on, rfl⟩ := Settings.enabled_of_mem_shownIds shown
  exact other c mem on

/-- A channel that is called like a part of the position. -/
def polarStation : Settings where
  database := { url := "http://db", org := "o", bucket := "b", token := "t" }
  sampling := { measurement := "m", sourceTag := "s" }
  channels := [{ id := "latitude" }, { id := "a" }]

/-- The channel with that name is read in the first cycle only. -/
def polarAnswers : Playback where
  answers := [[.reading 5], [.reading 7, .reading 8]]
  gps := some { latitude := 1.5, longitude := 2.5, altitude := 0.0, speed := 0.5 }

theorem polarStation_later_distinct :
    let p := (ofSettings polarAnswers polarStation).after [100]
    let record : Record :=
      ⟨"m,source=s a=8.000000,latitude=1.500000,longitude=2.500000,altitude=0.000000," ++
        "speed=0.500000 160"⟩
    polarStation.validate = .ok () ∧ (p.cycle 160).1 = .ok record ∧
      ∃ point, Point.read record.text = .ok point ∧ (point.fields.map (·.1)).Nodup := by
  intro p record
  have accepted : polarStation.validate = .ok () := by decide +kernel
  have built : (p.cycle 160).1 = .ok record := by decide +kernel
  obtain ⟨point, read, distinct, _⟩ := keys_nodup_iff accepted polarAnswers [100] 160 built
  have others : ∀ id ∈ polarStation.shownIds (heard polarStation 2 polarAnswers),
      id ∉ Publisher.positionKeys := by decide +kernel
  exact ⟨accepted, built, point, read, distinct.mpr fun _ => others⟩

/-- Accepted settings can give one key twice. -/
theorem polarStation_key_twice :
    let p := ofSettings polarAnswers polarStation
    let record : Record :=
      ⟨"m,source=s latitude=5.000000,a=7.000000,latitude=1.500000,longitude=2.500000," ++
        "altitude=0.000000,speed=0.500000 100"⟩
    polarStation.validate = .ok () ∧ (p.cycle 100).1 = .ok record ∧
      (Point.read record.text).map (fun point => point.fields.map (·.1)) =
        .ok ["latitude", "a", "latitude", "longitude", "altitude", "speed"] ∧
      ¬ ["latitude", "a", "latitude", "longitude", "altitude", "speed"].Nodup := by
  intro p record
  exact ⟨by decide +kernel, by decide +kernel, by decide +kernel, by decide⟩

end Pipeline
end TelemetryRelay
