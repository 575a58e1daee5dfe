import TelemetryRelay.Proofs.Decimal.Comparing
import TelemetryRelay.Proofs.Settings.Rules
import TelemetryRelay.Proofs.Text.Splitting

namespace TelemetryRelay

/-- A channel that may be sampled. -/
@[mk_iff]
structure ChannelSettings.Admissible (c : ChannelSettings) : Prop where
  id : Name.isKey c.id = true
  slope : Binary64.isFinite c.slope = true
  offset : Binary64.isFinite c.offset = true

namespace Settings

/-- Settings that may be used. -/
@[mk_iff]
structure Admissible (s : Settings) : Prop where
  url : s.database.url ≠ ""
  org : s.database.org ≠ ""
  bucket : s.database.bucket ≠ ""
  token : s.database.token ≠ ""
  scheme : ∃ rest, s.database.url = "http://" ++ rest ∨ s.database.url = "https://" ++ rest
  connectTimeout : 1 ≤ s.transport.connectTimeout ∧ s.transport.connectTimeout ≤ 60
  timeout : 1 ≤ s.transport.timeout ∧ s.transport.timeout ≤ 300
  timeouts : s.transport.connectTimeout ≤ s.transport.timeout
  spoolPath : s.spool.path ≠ ""
  batchLines : 1 ≤ s.spool.batchLines ∧ s.spool.batchLines ≤ 100000
  replayInterval : 1 ≤ s.spool.replayInterval ∧ s.spool.replayInterval ≤ 86400
  interval : 10 ≤ s.sampling.interval ∧ s.sampling.interval ≤ 3600000
  measurement : Name.isMeasurement s.sampling.measurement = true
  sourceTag : Name.isKey s.sampling.sourceTag = true
  filterAlpha : Binary64.IsShare s.sampling.filterAlpha
  readRetries : s.sampling.readRetries ≤ 10
  readRetryDelay : s.sampling.readRetryDelay ≤ 1000
  few : s.channels.length ≤ 16
  enabled : ∃ c ∈ s.channels, c.enabled = true
  channels : ∀ c ∈ s.channels, c.Admissible
  distinct : (s.channels.map (·.id)).Nodup
  level : ∃ c ∈ s.logging.level.toList, Text.isBlank c = false

/-- What settings must satisfy, and what is said if they do not. -/
structure Rule where
  holds : Prop
  message : String

/-- A text must be there. -/
def Rule.present (name text : String) : Rule :=
  ⟨text ≠ "", name ++ " cannot be empty"⟩

/-- A number must lie in a range whose ends belong to it. -/
def Rule.between (name : String) (low high n : Nat) : Rule :=
  ⟨low ≤ n ∧ n ≤ high, s!"{name} must be between {low} and {high}"⟩

/-- A number must not be too large. -/
def Rule.atMost (name : String) (high n : Nat) : Rule :=
  ⟨n ≤ high, s!"{name} must be at most {high}"⟩

/-- The rules about everything before the channels, in their order. -/
def generalRules (s : Settings) : List Rule := [
  .present "influxdb.url" s.database.url,
  .present "influxdb.org" s.database.org,
  .present "influxdb.bucket" s.database.bucket,
  .present "influxdb.token" s.database.token,
  ⟨∃ rest, s.database.url = "http://" ++ rest ∨ s.database.url = "https://" ++ rest,
    "influxdb.url must start with http:// or https://"⟩,
  .between "connect_timeout_s" 1 60 s.transport.connectTimeout,
  .between "timeout_s" 1 300 s.transport.timeout,
  ⟨s.transport.connectTimeout ≤ s.transport.timeout,
    "timeout_s must not be less than connect_timeout_s"⟩,
  .present "spool path" s.spool.path,
  .between "batch_lines" 1 100000 s.spool.batchLines,
  .between "replay_interval_s" 1 86400 s.spool.replayInterval,
  .between "interval_ms" 10 3600000 s.sampling.interval,
  ⟨Name.isMeasurement s.sampling.measurement = true,
    "measurement '" ++ s.sampling.measurement ++ "' is not a valid measurement name"⟩,
  ⟨Name.isKey s.sampling.sourceTag = true,
    "source_tag must be non-empty and contain only letters, digits and '_'"⟩,
  ⟨Binary64.IsShare s.sampling.filterAlpha, "filter_alpha must be in (0.0, 1.0]"⟩,
  .atMost "read_retries" 10 s.sampling.readRetries,
  .atMost "read_retry_delay_ms" 1000 s.sampling.readRetryDelay,
  ⟨s.channels.length ≤ 16, "at most 16 channels are supported"⟩,
  ⟨∃ c ∈ s.channels, c.enabled = true, "at least one channel must be enabled"⟩]

/-- The rules about a channel, where `earlier` are those before it. -/
def channelRules (earlier : List ChannelSettings) (c : ChannelSettings) : List Rule := [
  ⟨Name.isKey c.id = true, "channel id '" ++ c.id ++ "' is not a valid field key"⟩,
  ⟨∀ d ∈ earlier, d.id ≠ c.id, "duplicate channel id '" ++ c.id ++ "'"⟩,
  ⟨Binary64.isFinite c.slope = true ∧ Binary64.isFinite c.offset = true,
    "channel '" ++ c.id ++ "' slope and offset must be finite"⟩]

/-- The rules about channels, one channel after the other. -/
def channelsRules (earlier : List ChannelSettings) : List ChannelSettings → List Rule
  | [] => []
  | c :: rest => channelRules earlier c ++ channelsRules (earlier ++ [c]) rest

/-- All rules about settings, in the order in which they are looked at. -/
def rules (s : Settings) : List Rule :=
  s.generalRules ++ (channelsRules [] s.channels ++
    [⟨∃ c ∈ s.logging.level.toList, Text.isBlank c = false, "logging level cannot be empty"⟩])

/-- A message is that of the first rule that does not hold. -/
inductive IsFirstBroken : List Rule → String → Prop where
  | here {rule : Rule} (broken : ¬ rule.holds) (more : List Rule) :
    IsFirstBroken (rule :: more) rule.message
  | later {rule : Rule} {more : List Rule} {message : String} (kept : rule.holds)
    (first : IsFirstBroken more message) : IsFirstBroken (rule :: more) message

theorem IsFirstBroken.exists_broken {rules : List Rule} {message : String}
    (first : IsFirstBroken rules message) : ∃ rule ∈ rules, ¬ rule.holds := by
  induction first with
  | here broken more => exact ⟨_, List.mem_cons_self, broken⟩
  | later kept first ih =>
    obtain ⟨rule, mem, broken⟩ := ih
    exact ⟨rule, List.mem_cons_of_mem _ mem, broken⟩

theorem IsFirstBroken.append_right {rules : List Rule} {message : String}
    (first : IsFirstBroken rules message) (more : List Rule) :
    IsFirstBroken (rules ++ more) message := by
  induction first with
  | here broken rest => exact .here broken (rest ++ more)
  | later kept first ih => exact .later kept ih

theorem IsFirstBroken.append_left {rules more : List Rule} {message : String}
    (kept : ∀ rule ∈ rules, rule.holds) (first : IsFirstBroken more message) :
    IsFirstBroken (rules ++ more) message := by
  induction rules with
  | nil => exact first
  | cons rule rest ih =>
    obtain ⟨holds, tail⟩ := List.forall_mem_cons.mp kept
    exact .later holds (ih tail)

theorem IsFirstBroken.unique {rules : List Rule} {message message' : String}
    (first : IsFirstBroken rules message) (first' : IsFirstBroken rules message') :
    message = message' := by
  induction first with
  | here broken more =>
    cases first' with
    | here => rfl
    | later kept => exact absurd kept broken
  | later kept first ih =>
    cases first' with
    | here broken => exact absurd kept broken
    | later _ rest => exact ih rest

/-- What is found among rules: nothing if all of them hold, and otherwise the first one that is
broken. -/
inductive Finds (rules : List Rule) : Option SettingsFault → Prop where
  | nothing (kept : ∀ rule ∈ rules, rule.holds) : Finds rules none
  | broken {fault : SettingsFault} (first : IsFirstBroken rules fault.message) :
    Finds rules (some fault)

theorem Finds.append {rules more : List Rule} {found next : Option SettingsFault}
    (first : Finds rules found) (second : Finds more next) :
    Finds (rules ++ more) (found.or next) := by
  cases first with
  | broken first => exact .broken (first.append_right more)
  | nothing kept =>
    cases second with
    | nothing rest => exact .nothing (List.forall_mem_append.mpr ⟨kept, rest⟩)
    | broken second => exact .broken (second.append_left kept)

theorem Finds.eq_none_iff {rules : List Rule} {found : Option SettingsFault}
    (finds : Finds rules found) : found = none ↔ ∀ rule ∈ rules, rule.holds := by
  cases finds with
  | nothing kept => simpa using kept
  | broken first =>
    obtain ⟨rule, mem, broken⟩ := first.exists_broken
    simp only [reduceCtorEq, false_iff]
    exact fun kept => broken (kept rule mem)

theorem Finds.message_iff {rules : List Rule} {found : Option SettingsFault}
    (finds : Finds rules found) {message : String} :
    (∃ fault, found = some fault ∧ fault.message = message) ↔ IsFirstBroken rules message := by
  constructor
  · rintro ⟨fault, rfl, rfl⟩
    cases finds with
    | broken first => exact first
  · intro first
    cases finds with
    | nothing kept =>
      obtain ⟨rule, mem, broken⟩ := first.exists_broken
      exact absurd (kept rule mem) broken
    | @broken fault found => exact ⟨fault, rfl, found.unique first⟩

/-- A condition looks at a rule: it holds if the rule does not, and its fault says so. -/
structure Checks (check : Bool × SettingsFault) (rule : Rule) : Prop where
  broken : check.1 = true ↔ ¬ rule.holds
  message : check.2.message = rule.message

theorem finds_firstFault {checks : List (Bool × SettingsFault)} {rules : List Rule}
    (agree : List.Forall₂ Checks checks rules) : Finds rules (firstFault checks) := by
  induction agree with
  | nil => exact .nothing (by simp)
  | @cons check rule _ more head tail ih =>
    obtain ⟨broken, fault⟩ := check
    cases broken with
    | true =>
      have first := IsFirstBroken.here (head.broken.mp rfl) more
      rw [← head.message] at first
      exact .broken first
    | false =>
      have kept : rule.holds := not_not.mp (head.broken.not.mp Bool.false_ne_true)
      have single : Finds [rule] none := .nothing (by simpa using kept)
      exact single.append ih

theorem checks_present (name text : String) :
    Checks (text.isEmpty, .empty name) (.present name text) :=
  ⟨by simp [Rule.present], rfl⟩

theorem checks_between (name : String) (low high n : Nat) :
    Checks (isOutside low high n, .outOfRange name low high) (.between name low high n) := by
  refine ⟨?_, rfl⟩
  simp only [isOutside, Rule.between, Bool.or_eq_true, decide_eq_true_eq]
  omega

theorem checks_atMost (name : String) (high n : Nat) :
    Checks (isOutside 0 high n, .atMost name high) (.atMost name high n) :=
  ⟨by simp [isOutside, Rule.atMost], rfl⟩

/-- A condition that denies what the rule says. -/
theorem checks_not {b : Bool} {p : Prop} {fault : SettingsFault} {message : String}
    (holds : b = true ↔ p) (said : fault.message = message) : Checks (!b, fault) ⟨p, message⟩ :=
  ⟨by simp [← holds], said⟩

theorem isShare_eq_true_iff {v : Float} :
    (0.0 < v && v ≤ 1.0) = true ↔ Binary64.IsShare v := by
  rw [Bool.and_eq_true, decide_eq_true_iff, decide_eq_true_iff, Binary64.isShare_iff]

theorem finds_generalFault (s : Settings) : Finds s.generalRules s.generalFault := by
  apply finds_firstFault
  have timeouts : Checks
      (s.transport.timeout < s.transport.connectTimeout, .timeoutTooShort)
      ⟨s.transport.connectTimeout ≤ s.transport.timeout, _⟩ := ⟨by simp, rfl⟩
  have few : Checks (maxChannels < s.channels.length, .tooManyChannels maxChannels)
      ⟨s.channels.length ≤ 16, _⟩ := ⟨by rw [decide_eq_true_iff, Nat.not_le, maxChannels], rfl⟩
  simp only [generalRules, List.forall₂_cons, List.forall₂_nil_right_iff, and_true]
  exact ⟨checks_present .., checks_present .., checks_present .., checks_present ..,
    checks_not isWebAddress_iff rfl, checks_between .., checks_between .., timeouts,
    ⟨by simp [Rule.present], rfl⟩, checks_between .., checks_between .., checks_between ..,
    checks_not .rfl rfl, checks_not .rfl rfl, checks_not isShare_eq_true_iff rfl,
    checks_atMost .., checks_atMost .., few, checks_not List.any_eq_true rfl⟩

theorem finds_channelFault {ids : List String} {earlier : List ChannelSettings}
    (same : ∀ id, id ∈ ids ↔ ∃ d ∈ earlier, d.id = id) (c : ChannelSettings) :
    Finds (channelRules earlier c) (channelFault ids c) := by
  apply finds_firstFault
  have duplicate : Checks (ids.contains c.id, .duplicateChannel c.id)
      ⟨∀ d ∈ earlier, d.id ≠ c.id, _⟩ := ⟨by simp [same], rfl⟩
  have line : Checks
      (!Binary64.isFinite c.slope || !Binary64.isFinite c.offset, .channelLine c.id)
      ⟨Binary64.isFinite c.slope = true ∧ Binary64.isFinite c.offset = true, _⟩ :=
    ⟨by simp [imp_iff_not_or], rfl⟩
  simp only [channelRules, List.forall₂_cons, List.forall₂_nil_right_iff, and_true]
  exact ⟨checks_not .rfl rfl, duplicate, line⟩

/-- The ids that are kept while channels are looked at are those of the channels before. -/
theorem finds_channelsFault {ids : List String} {earlier : List ChannelSettings}
    (same : ∀ id, id ∈ ids ↔ ∃ d ∈ earlier, d.id = id) (channels : List ChannelSettings) :
    Finds (channelsRules earlier channels) (channelsFault ids channels) := by
  induction channels generalizing ids earlier with
  | nil => exact .nothing (by simp [channelsRules])
  | cons c rest ih =>
    have kept : ∀ id, id ∈ c.id :: ids ↔ ∃ d ∈ earlier ++ [c], d.id = id := by
      intro id
      rw [List.mem_cons, same]
      simp [or_and_right, exists_or, or_comm, eq_comm]
    have split : channelsFault ids (c :: rest) =
        (channelFault ids c).or (channelsFault (c.id :: ids) rest) := by
      rw [channelsFault]
      cases channelFault ids c <;> rfl
    rw [split]
    exact (finds_channelFault same c).append (ih kept)

theorem finds_channelsFault_nil (channels : List ChannelSettings) :
    Finds (channelsRules [] channels) (channelsFault [] channels) :=
  finds_channelsFault (by simp) channels

theorem finds_loggingFault (s : LoggingSettings) :
    Finds [⟨∃ c ∈ s.level.toList, Text.isBlank c = false, "logging level cannot be empty"⟩]
      (loggingFault s) := by
  apply finds_firstFault
  have level : Checks ((Text.trim s.level.toList).isEmpty, .emptyLevel)
      ⟨∃ c ∈ s.level.toList, Text.isBlank c = false, _⟩ :=
    ⟨by simp [Text.trim_eq_nil_iff], rfl⟩
  exact .cons level .nil

theorem finds_fault (s : Settings) : Finds s.rules s.fault? := by
  have parts : s.fault? =
      s.generalFault.or ((channelsFault [] s.channels).or (loggingFault s.logging)) := by
    rw [fault?]
    cases s.generalFault with
    | some fault => rfl
    | none => cases channelsFault [] s.channels <;> rfl
  rw [parts]
  exact (finds_generalFault s).append
    ((finds_channelsFault_nil s.channels).append (finds_loggingFault s.logging))

theorem channelsRules_hold_iff {channels : List ChannelSettings} :
    (∀ rule ∈ channelsRules [] channels, rule.holds) ↔
      (∀ c ∈ channels, c.Admissible) ∧ (channels.map (·.id)).Nodup := by
  have single : ∀ c, channelFault [] c = none ↔ c.Admissible := by
    intro c
    rw [channelFault_eq_none_iff, ChannelSettings.admissible_iff]
    simp
  rw [← (finds_channelsFault_nil channels).eq_none_iff, channelsFault_eq_none_iff]
  simp only [single]

theorem admissible_iff_rules {s : Settings} : s.Admissible ↔ ∀ rule ∈ s.rules, rule.holds := by
  simp only [rules, List.forall_mem_append, channelsRules_hold_iff, generalRules, Rule.present,
    Rule.between, Rule.atMost, List.forall_mem_cons, List.not_mem_nil, false_imp_iff, implies_true,
    and_true, and_assoc, admissible_iff]

/-- Settings are accepted exactly if they may be used. What is said about others is what the first
rule says that they break. -/
theorem validate_names_first (s : Settings) : (s.validate = .ok () ↔ s.Admissible) ∧
    ∀ message, (∃ fault, s.validate = .error fault ∧ fault.message = message) ↔
      IsFirstBroken s.rules message := by
  have finds := finds_fault s
  rw [admissible_iff_rules, ← finds.eq_none_iff]
  simp only [← finds.message_iff, validate]
  cases s.fault? <;> simp

end Settings
end TelemetryRelay
