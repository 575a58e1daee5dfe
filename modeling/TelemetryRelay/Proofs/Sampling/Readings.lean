import Mathlib.Data.List.Basic
import TelemetryRelay.Sampling.Collector

namespace TelemetryRelay

/-- The answer to reading a channel, absent for a channel that is not enabled. -/
abbrev Answer := Option (Except SamplerError Int32)

/-- What a sampler answered in one cycle: for each channel after all retries, and its report of the
position. -/
structure Cycle where
  answers : List Answer
  report : Option GpsFix

/-- The answer for the channel at an index. -/
def Cycle.answer (cycle : Cycle) (index : Nat) : Answer :=
  (cycle.answers[index]?).join

/-- The counts among answers. -/
def counts (answers : List Answer) : List Int32 :=
  answers.filterMap fun answer => answer.bind Except.toOption

/-- The latest usable position that was reported. -/
def latestFix (cycles : List Cycle) : Option GpsFix :=
  ((cycles.filterMap (·.report)).filter (·.isValid)).getLast?

namespace Channel

/-- The channel after a cycle with an answer. -/
def observe (alpha : Option Float) (c : Channel) : Answer → Channel
  | none => c
  | some answer => Collector.settle alpha c answer

section
variable (alpha : Option Float) (c : Channel) (answer : Answer)

/-- A cycle changes the readings of a channel only. -/
theorem observe_eq :
    c.observe alpha answer =
      { c with raw := (c.observe alpha answer).raw
               filtered := (c.observe alpha answer).filtered } := by
  rcases answer with _ | _ | raw <;> cases alpha <;> rfl

@[simp] theorem enabled_observe : (c.observe alpha answer).enabled = c.enabled := by
  rw [observe_eq]

end

/-- Counts smoothed one after the other, on from a level. -/
def smoothed (alpha : Float) (level : Option Float) (counts : List Int32) : Option Float :=
  counts.foldl (fun level raw => some (Calibration.smooth level (countToFloat raw) alpha)) level

/-- The level that a reading gives: smoothed with those before it, or alone without smoothing. -/
def level (alpha : Option Float) (earlier : List Int32) (raw : Int32) : Float :=
  match alpha with
  | none => countToFloat raw
  | some a => Calibration.smooth (smoothed a none earlier) (countToFloat raw) a

/-- The physical value after answers, absent unless the last of them is a reading. -/
def currentValue (alpha : Option Float) (line : Line Float) (answers : List Answer) :
    Option Float :=
  match answers.getLast? with
  | some (some (.ok raw)) => some (line.apply (level alpha (counts answers.dropLast) raw))
  | _ => none

theorem filtered_foldl_observe (alpha : Option Float) (c : Channel) (answers : List Answer) :
    (answers.foldl (observe alpha) c).filtered =
      match alpha with
      | none => c.filtered
      | some a => smoothed a c.filtered (counts answers) := by
  induction answers generalizing c with
  | nil => cases alpha <;> rfl
  | cons answer answers ih =>
    rw [List.foldl_cons, ih]
    rcases answer with _ | _ | raw <;> cases alpha <;> rfl

theorem foldl_observe_eq (alpha : Option Float) (c : Channel) (answers : List Answer) :
    ∃ raw filtered, answers.foldl (observe alpha) c = { c with raw, filtered } := by
  induction answers generalizing c with
  | nil => exact ⟨c.raw, c.filtered, rfl⟩
  | cons answer answers ih =>
    obtain ⟨raw, filtered, later⟩ := ih (c.observe alpha answer)
    rw [observe_eq] at later
    exact ⟨raw, filtered, by rw [List.foldl_cons, observe_eq, later]⟩

/-- The value of a channel that is read in every cycle comes from its last reading, or there is
none if the last read failed. -/
theorem value_foldl_observe (alpha : Option Float) (c : ChannelSettings) {answers : List Answer}
    (asked : ∀ answer ∈ answers, answer.isSome = true) :
    (answers.foldl (observe alpha) (ofSettings c)).value =
      currentValue alpha ⟨c.slope, c.offset⟩ answers := by
  rcases List.eq_nil_or_concat answers with rfl | ⟨earlier, last, rfl⟩
  · rfl
  · obtain ⟨answer, rfl⟩ := Option.isSome_iff_exists.mp (asked last (by simp))
    have line : (earlier.foldl (observe alpha) (ofSettings c)).line = ⟨c.slope, c.offset⟩ := by
      obtain ⟨_, _, eq⟩ := foldl_observe_eq alpha (ofSettings c) earlier
      rw [eq]
      rfl
    have filtered : (earlier.foldl (observe alpha) (ofSettings c)).filtered =
        alpha.bind fun a => smoothed a none (counts earlier) := by
      rw [filtered_foldl_observe]
      cases alpha <;> rfl
    rw [List.concat_eq_append, List.foldl_append, List.foldl_cons, List.foldl_nil]
    cases answer with
    | error e => simp [currentValue, observe, Collector.settle, markUnavailable, value]
    | ok raw =>
      cases alpha with
      | none =>
        simp [currentValue, observe, Collector.settle, update, value, filtered, line, level]
      | some a =>
        simp [currentValue, observe, Collector.settle, update, smooth, value, filtered, line, level]

end Channel

namespace Collector
variable {σ : Type} [Sampler σ]

/-- Asks a sampler for one reading of each enabled channel from `index` on. -/
def survey (retries : Nat) : Nat → List Bool → σ → List Answer × σ
  | _, [], s => ([], s)
  | index, true :: rest, s =>
    let (answer, s) := readWithRetry index retries s
    let (answers, s) := survey retries (index + 1) rest s
    (some answer :: answers, s)
  | index, false :: rest, s =>
    let (answers, s) := survey retries (index + 1) rest s
    (none :: answers, s)

/-- What a sampler answers in one cycle. -/
def cycle (retries : Nat) (enabled : List Bool) (s : σ) : Cycle × σ :=
  let (answers, s) := survey retries 0 enabled s
  let (report, s) := Sampler.readGps s
  ({ answers, report }, s)

/-- What a sampler answers in a number of cycles. -/
def cycles (retries : Nat) (enabled : List Bool) : Nat → σ → List Cycle × σ
  | 0, s => ([], s)
  | count + 1, s =>
    let (first, s) := cycle retries enabled s
    let (later, s) := cycles retries enabled count s
    (first :: later, s)

/-- Exactly the enabled channels are asked. -/
theorem isSome_survey (retries index : Nat) (enabled : List Bool) (s : σ) :
    (survey retries index enabled s).1.map Option.isSome = enabled := by
  induction enabled generalizing index s with
  | nil => rfl
  | cons on rest ih => cases on <;> simp [survey, ih]

theorem length_survey (retries index : Nat) (enabled : List Bool) (s : σ) :
    (survey retries index enabled s).1.length = enabled.length := by
  rw [← List.length_map, isSome_survey]

theorem readChannels_eq (alpha : Option Float) (retries index : Nat) (channels : List Channel)
    (s : σ) (summary : CycleSummary) :
    let answers := survey retries index (channels.map (·.enabled)) s
    (readChannels alpha retries index channels s summary).1 =
        List.zipWith (Channel.observe alpha) channels answers.1 ∧
      (readChannels alpha retries index channels s summary).2.2 = answers.2 := by
  induction channels generalizing index s summary with
  | nil => exact ⟨rfl, rfl⟩
  | cons c rest ih =>
    cases enabled : c.enabled with
    | true => simp [readChannels, survey, enabled, ih, Channel.observe]
    | false => simp [readChannels, survey, enabled, ih, Channel.observe]

/-- The collector after a number of cycles. -/
def collects (c : Collector σ) : Nat → Collector σ
  | 0 => c
  | count + 1 => c.collect.2.collects count

/-- In every cycle the enabled channels have an answer, and no others. -/
theorem isSome_answer {retries count : Nat} {enabled : List Bool} {s : σ} {heard : Cycle}
    (mem : heard ∈ (cycles retries enabled count s).1) (index : Nat) :
    (heard.answer index).isSome = enabled[index]?.getD false := by
  induction count generalizing s with
  | zero => simp [cycles] at mem
  | succ count ih =>
    rcases List.mem_cons.mp mem with rfl | later
    · have asked := congrArg (·[index]?) (isSome_survey retries 0 enabled s)
      rw [List.getElem?_map] at asked
      rw [← asked]
      change ((survey retries 0 enabled s).1[index]?).join.isSome = _
      cases (survey retries 0 enabled s).1[index]? <;> rfl
    · exact ih later

theorem zipWith_observe (alpha : Option Float) {channels : List Channel} {answers : List Answer}
    (report : Option GpsFix) (same : answers.length = channels.length) :
    List.zipWith (Channel.observe alpha) channels answers =
      channels.mapIdx fun i channel =>
        channel.observe alpha (Cycle.answer { answers, report } i) := by
  refine List.ext_getElem (by simp [same]) fun i _ inside => ?_
  rw [List.length_mapIdx, ← same] at inside
  simp [Cycle.answer, inside]

theorem keepFix_eq (answers : List Answer) (report previous : Option GpsFix) :
    (match report with
      | some fix => if fix.isValid then some fix else previous
      | none => previous) = (latestFix [{ answers, report }]).or previous := by
  cases report with
  | none => rfl
  | some fix => cases valid : fix.isValid <;> simp [latestFix, valid]

/-- A cycle updates each channel with the answer to its own read, and the position with the
report. -/
theorem collect_eq (c : Collector σ) :
    let heard := cycle c.retries (c.channels.map (·.enabled)) c.sampler
    c.collect.2 =
      { c with
        sampler := heard.2
        channels := c.channels.mapIdx fun i channel =>
          channel.observe c.filterAlpha (heard.1.answer i)
        lastFix := (latestFix [heard.1]).or c.lastFix } := by
  obtain ⟨channels, sampler⟩ := readChannels_eq c.filterAlpha c.retries 0 c.channels c.sampler {}
  have same := length_survey c.retries 0 (c.channels.map (·.enabled)) c.sampler
  rw [List.length_map] at same
  rw [zipWith_observe _ (Sampler.readGps
    (survey c.retries 0 (c.channels.map (·.enabled)) c.sampler).2).1 same] at channels
  simp only [collect, cycle, channels, sampler]
  congr 1
  exact keepFix_eq ..

theorem latestFix_cons (first : Cycle) (later : List Cycle) :
    latestFix (first :: later) = (latestFix later).or (latestFix [first]) := by
  obtain ⟨answers, report⟩ := first
  cases report with
  | none => simp [latestFix]
  | some fix => cases valid : fix.isValid <;> simp [latestFix, valid, List.getLast?_cons]

theorem collects_succ (c : Collector σ) (count : Nat) :
    c.collects (count + 1) = (c.collects count).collect.2 := by
  induction count generalizing c with
  | zero => rfl
  | succ count ih => exact ih c.collect.2

/-- After any number of cycles each channel is what the answers to its own reads make of it, one
after the other, and the position is the latest usable one. -/
theorem collects_eq (c : Collector σ) (count : Nat) :
    let heard := cycles c.retries (c.channels.map (·.enabled)) count c.sampler
    c.collects count =
      { c with
        sampler := heard.2
        channels := c.channels.mapIdx fun i channel =>
          (heard.1.map (·.answer i)).foldl (Channel.observe c.filterAlpha) channel
        lastFix := (latestFix heard.1).or c.lastFix } := by
  induction count generalizing c with
  | zero =>
    have same : c.channels.mapIdx (fun _ channel => channel) = c.channels :=
      List.ext_getElem (by simp) fun i _ _ => by simp
    simp [collects, cycles, latestFix, same]
  | succ count ih =>
    have enabled : c.collect.2.channels.map (·.enabled) = c.channels.map (·.enabled) := by
      rw [collect_eq]
      exact List.ext_getElem (by simp) fun i _ _ => by simp
    simp only [collects, cycles]
    rw [ih, enabled, collect_eq c]
    simp [List.mapIdx_mapIdx, Function.comp_def, latestFix_cons _ (cycles _ _ _ _).1,
      Option.or_assoc]

end Collector
end TelemetryRelay
