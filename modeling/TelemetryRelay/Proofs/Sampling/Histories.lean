import TelemetryRelay.Proofs.Sampling.Pipeline

namespace TelemetryRelay
namespace Channel

section
variable (alpha : Option Float) (c : ChannelSettings) {answers : List Answer}

theorem foldl_observe_silent {channel : Channel} (silent : ∀ answer ∈ answers, answer = none) :
    answers.foldl (observe alpha) channel = channel := by
  induction answers with
  | nil => rfl
  | cons answer answers ih =>
    obtain ⟨rfl, later⟩ := List.forall_mem_cons.mp silent
    exact ih later

theorem raw_foldl_observe (asked : ∀ answer ∈ answers, answer.isSome = true) :
    (answers.foldl (observe alpha) (ofSettings c)).raw =
      answers.getLast?.join.bind Except.toOption := by
  rcases List.eq_nil_or_concat answers with rfl | ⟨earlier, last, rfl⟩
  · rfl
  · obtain ⟨answer, rfl⟩ := Option.isSome_iff_exists.mp (asked last (by simp))
    rw [List.concat_eq_append, List.foldl_append, List.getLast?_concat]
    rcases answer with e | raw
    · rfl
    · cases alpha <;> rfl

end

theorem exists_smoothed_concat (alpha : Float) (level : Option Float) (earlier : List Int32)
    (raw : Int32) : ∃ now, smoothed alpha level (earlier ++ [raw]) = some now := by
  rw [smoothed, List.foldl_append]
  exact ⟨_, rfl⟩

theorem counts_concat {answers : List Answer} {raw : Int32}
    (latest : answers.getLast?.join.bind Except.toOption = some raw) :
    ∃ earlier, counts answers = earlier ++ [raw] := by
  rcases List.eq_nil_or_concat answers with rfl | ⟨earlier, last, rfl⟩
  · simp at latest
  · rw [List.concat_eq_append, List.getLast?_concat] at latest
    refine ⟨counts earlier, ?_⟩
    rw [List.concat_eq_append, counts, List.filterMap_append, counts]
    congr 1
    exact List.filterMap_cons_some latest

/-- What an enabled channel shows when `latest` is what the last cycle read, and `all` are the
readings of all cycles, those of failed ones left out. -/
structure Shows (sampling : SamplingSettings) (c : ChannelSettings) (latest : Option Int32)
    (all : List Int32) (channel : Channel) : Prop where
  kept : channel = { ofSettings c with raw := channel.raw, filtered := channel.filtered }
  raw : channel.raw = latest
  absent : latest = none → channel.value = none
  plain : sampling.filterEnabled = false → channel.filtered = none ∧
    ∀ raw, latest = some raw →
      channel.value = some (Line.apply ⟨c.slope, c.offset⟩ (countToFloat raw))
  smooth : sampling.filterEnabled = true →
    channel.filtered = smoothed sampling.filterAlpha none all ∧
    ∀ raw, latest = some raw → all.getLast? = some raw ∧
      ∃ level, smoothed sampling.filterAlpha none all = some level ∧
        channel.value = some (Line.apply ⟨c.slope, c.offset⟩ level)

/-- A channel that is read in every cycle shows the answers to its own reads. -/
theorem shows_foldl_observe (sampling : SamplingSettings) (c : ChannelSettings)
    {answers : List Answer} (asked : ∀ answer ∈ answers, answer.isSome = true) :
    Shows sampling c (answers.getLast?.join.bind Except.toOption) (counts answers)
      (answers.foldl (observe sampling.alpha) (ofSettings c)) := by
  obtain ⟨raw, filtered, eq⟩ := foldl_observe_eq sampling.alpha (ofSettings c) answers
  have latest := raw_foldl_observe sampling.alpha c asked
  have level := filtered_foldl_observe sampling.alpha (ofSettings c) answers
  rw [eq] at latest level ⊢
  have value (count : Int32) (shown : raw = some count) :
      value { ofSettings c with raw, filtered } =
        some (Line.apply ⟨c.slope, c.offset⟩ (filtered.getD (countToFloat count))) := by
    simp [Channel.value, shown, ofSettings]
  constructor
  case kept => rfl
  case raw => exact latest
  case absent =>
    intro failed
    have unread : raw = none := latest.trans failed
    simp [Channel.value, unread]
  case plain =>
    intro off
    have unfiltered : filtered = none := by
      simpa [SamplingSettings.alpha, off, ofSettings] using level
    refine ⟨unfiltered, fun count read => ?_⟩
    rw [value count (latest.trans read), unfiltered, Option.getD_none]
  case smooth =>
    intro on
    have smoothed_ : filtered = smoothed sampling.filterAlpha none (counts answers) := by
      simpa [SamplingSettings.alpha, on, ofSettings] using level
    refine ⟨smoothed_, fun count read => ?_⟩
    obtain ⟨earlier, all⟩ := counts_concat read
    obtain ⟨now, settled⟩ := exists_smoothed_concat sampling.filterAlpha none earlier count
    rw [← all] at settled
    refine ⟨by rw [all, List.getLast?_concat], now, settled, ?_⟩
    rw [value count (latest.trans read), smoothed_, settled, Option.getD_some]

end Channel

namespace Collector
variable {σ : Type} [Sampler σ]
open Exchange

/-- The state of a collector after any number of cycles, whatever its sampler answers. The logs are
all that passes between the two. A disabled channel is as it was set up and is never read; an
enabled one is read in every cycle and shows its own readings; and the position, for which every
cycle asks, is the last report with finite parts. -/
theorem collects_tell_history (s : Settings) (sampler : σ) (count : Nat) :
    let start := ofSettings sampler s.channels s.sampling
    let logs := start.transcript count
    (start.recorded []).collects count = (start.collects count).recorded logs.flatten ∧
      (start.collects count).channels.length = s.channels.length ∧
      (∀ i c channel, s.channels[i]? = some c →
        (start.collects count).channels[i]? = some channel →
          (c.enabled = false → channel = .ofSettings c ∧
            ∀ log ∈ logs, ∀ exchange ∈ log, ¬ exchange.Reads i) ∧
          (c.enabled = true →
            (∀ log ∈ logs, ∃ exchange ∈ log, exchange.Reads i) ∧
            channel.Shows s.sampling c (logs.getLast?.bind fun log => (readings i log).getLast?)
              (readings i logs.flatten))) ∧
      (∀ log ∈ logs, ∃ fix, .report fix ∈ log) ∧
      (start.collects count).lastFix = latestPosition logs.flatten := by
  intro start logs
  have tells : List.Forall₂ Tells logs (Pipeline.heard s count sampler) :=
    Pipeline.tells_heard s sampler count
  obtain ⟨channels, fix⟩ := Pipeline.collects_ofSettings s sampler count
  refine ⟨start.collects_recorded [] count, ?_, fun i c channel set shown => ?_,
    forall_logs tells (fun told _ => told.exists_report) fun _ _ => trivial, ?_⟩
  · rw [channels, List.length_mapIdx]
  · rw [channels, List.getElem?_mapIdx, set] at shown
    cases shown
    have asked := @Pipeline.isSome_heard _ _ s count i sampler c set
    constructor
    · intro off
      have silent : ∀ answer ∈ (Pipeline.heard s count sampler).map (·.answer i), answer = none :=
        fun answer mem => Option.not_isSome_iff_eq_none.mp (by simp [asked answer mem, off])
      exact ⟨Channel.foldl_observe_silent s.sampling.alpha silent,
        forall_logs tells (fun told => told.unread) (List.forall_mem_map.mp silent)⟩
    · intro on
      have answered : ∀ answer ∈ (Pipeline.heard s count sampler).map (·.answer i),
          answer.isSome = true := fun answer mem => (asked answer mem).trans on
      rw [getLast?_readings tells, readings_flatten tells]
      exact ⟨forall_logs tells (fun told => told.exists_read) (List.forall_mem_map.mp answered),
        Channel.shows_foldl_observe s.sampling c answered⟩
  · rw [fix, latestPosition_flatten tells]

/-- A channel that is read in the first and in the third cycle, there at the second try, and a
disabled one. -/
def gappyAnswers : Playback where
  answers :=
    [[.reading 10, .failure "busy", .failure "busy", .failure "busy", .reading 20], [.reading 5]]

theorem gappyAnswers_history :
    let station := Pipeline.smoothedStation
    let start := ofSettings gappyAnswers station.channels station.sampling
    station.channels[0]? = some { id := "a", slope := 2.0, offset := 1.0 } ∧
      station.channels[1]? = some { id := "b", enabled := false } ∧
      ((start.transcript 2).getLast?.bind fun log => (readings 0 log).getLast?) = none ∧
      ((start.transcript 3).getLast?.bind fun log => (readings 0 log).getLast?) = some 20 ∧
      readings 0 (start.transcript 3).flatten = [10, 20] ∧
      ∃ a b, (start.collects 3).channels[0]? = some a ∧ (start.collects 3).channels[1]? = some b ∧
        a.raw = some 20 ∧ a.filtered = Channel.smoothed 0.5 none [10, 20] ∧
        (∃ level, Channel.smoothed 0.5 none [10, 20] = some level ∧
          a.value = some (Line.apply ⟨2.0, 1.0⟩ level)) ∧
        b = .ofSettings { id := "b", enabled := false } := by
  intro station start
  obtain ⟨_, length, shows, _⟩ := collects_tell_history station gappyAnswers 3
  have first : station.channels[0]? = some { id := "a", slope := 2.0, offset := 1.0 } := rfl
  have second : station.channels[1]? = some { id := "b", enabled := false } := rfl
  have gap : ((start.transcript 2).getLast?.bind fun log => (readings 0 log).getLast?) = none := by
    decide +kernel
  have latest :
      ((start.transcript 3).getLast?.bind fun log => (readings 0 log).getLast?) = some 20 := by
    decide +kernel
  have all : readings 0 (start.transcript 3).flatten = [10, 20] := by decide +kernel
  have three : (start.collects 3).channels.length = 3 := length
  have a := List.getElem?_eq_getElem (show 0 < (start.collects 3).channels.length by omega)
  have b := List.getElem?_eq_getElem (show 1 < (start.collects 3).channels.length by omega)
  obtain ⟨_, enabled⟩ := (shows 0 _ _ first a).2 rfl
  rw [latest, all] at enabled
  obtain ⟨filtered, value⟩ := enabled.smooth rfl
  exact ⟨first, second, gap, latest, all, _, _, a, b, enabled.raw, filtered, (value 20 rfl).2,
    ((shows 1 _ _ second b).1 rfl).1⟩

end Collector
end TelemetryRelay
