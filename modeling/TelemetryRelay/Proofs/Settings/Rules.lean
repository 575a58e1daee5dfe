import Mathlib.Data.List.Nodup
import TelemetryRelay.Settings.Validation

namespace TelemetryRelay.Settings

theorem firstFault_eq_none_iff {rules : List (Bool × SettingsFault)} :
    firstFault rules = none ↔ ∀ rule ∈ rules, rule.1 = false := by
  simp [firstFault, List.find?_eq_none]

theorem channelFault_eq_none_iff {earlier : List String} {c : ChannelSettings} :
    channelFault earlier c = none ↔
      Name.isKey c.id = true ∧ c.id ∉ earlier ∧
        Binary64.isFinite c.slope = true ∧ Binary64.isFinite c.offset = true := by
  simp [channelFault, firstFault_eq_none_iff]

theorem channelFault_cons_eq_none_iff {id : String} {earlier : List String} {c : ChannelSettings} :
    channelFault (id :: earlier) c = none ↔ channelFault earlier c = none ∧ c.id ≠ id := by
  simp only [channelFault_eq_none_iff, List.mem_cons, not_or]
  tauto

/-- Channels are accepted if each of them is, and no two have the same id. -/
theorem channelsFault_eq_none_iff {earlier : List String} {channels : List ChannelSettings} :
    channelsFault earlier channels = none ↔
      (∀ c ∈ channels, channelFault earlier c = none) ∧ (channels.map (·.id)).Nodup := by
  induction channels generalizing earlier with
  | nil => simp [channelsFault]
  | cons c rest ih =>
    have distinct : c.id ∉ rest.map (·.id) ↔ ∀ d ∈ rest, d.id ≠ c.id := by
      simp only [List.mem_map, not_exists, not_and]
    unfold channelsFault
    split
    next fault found => simp [found]
    next accepted =>
      rw [ih, List.forall_mem_cons, List.map_cons, List.nodup_cons, distinct]
      simp only [channelFault_cons_eq_none_iff, accepted, true_and, forall_and]
      tauto

theorem validate_eq_ok_iff {s : Settings} :
    s.validate = .ok () ↔
      generalFault s = none ∧ channelsFault [] s.channels = none ∧
        loggingFault s.logging = none := by
  unfold validate fault?
  cases generalFault s <;> cases channelsFault [] s.channels <;> cases loggingFault s.logging <;>
    simp

/-- The names in accepted settings are those that may stand in a record. -/
theorem names_of_validate {s : Settings} (h : s.validate = .ok ()) :
    Name.isMeasurement s.sampling.measurement = true ∧ Name.isKey s.sampling.sourceTag = true ∧
      ∀ c ∈ s.channels, Name.isKey c.id = true := by
  obtain ⟨general, channels, _⟩ := validate_eq_ok_iff.mp h
  have rules := firstFault_eq_none_iff.mp general
  refine ⟨?_, ?_, fun c mem => ?_⟩
  · simpa using
      rules (!Name.isMeasurement s.sampling.measurement, .measurement s.sampling.measurement)
        (by simp)
  · simpa using rules (!Name.isKey s.sampling.sourceTag, .sourceTag) (by simp)
  · exact (channelFault_eq_none_iff.mp ((channelsFault_eq_none_iff.mp channels).1 c mem)).1

theorem isWebAddress_iff {url : String} : isWebAddress url = true ↔
    ∃ rest, url = "http://" ++ rest ∨ url = "https://" ++ rest := by
  have start (front : String) : front.toList.isPrefixOf url.toList = true ↔
      ∃ rest, url = front ++ rest := by
    rw [List.isPrefixOf_iff_prefix]
    constructor
    · rintro ⟨rest, eq⟩
      exact ⟨String.ofList rest, String.toList_inj.mp (by simp [eq])⟩
    · rintro ⟨rest, rfl⟩
      exact ⟨rest.toList, by simp⟩
  rw [isWebAddress, Bool.or_eq_true, start, start, exists_or]

theorem isWebAddress_of_validate {s : Settings} (h : s.validate = .ok ()) :
    isWebAddress s.database.url = true := by
  have rules := firstFault_eq_none_iff.mp (validate_eq_ok_iff.mp h).1
  simpa using rules (!isWebAddress s.database.url, .urlScheme) (by simp)

end TelemetryRelay.Settings
