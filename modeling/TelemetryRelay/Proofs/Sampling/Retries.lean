import TelemetryRelay.Proofs.Sampling.Recording

namespace TelemetryRelay

/-- A run ends at the first reading, at the first answer that there is no such channel, or at the
read error for which no retry is left, and not before. -/
structure Run.EndsWithin (retries : Nat) (run : Run) : Prop where
  most : run.failures.length ≤ retries
  used_up : ∀ channel reason, run.last = .error (.read channel reason) →
    run.failures.length = retries

/-- A run with a failure before it, after which the channel was tried again. -/
def Run.retried (channel : Nat) (reason : String) (run : Run) : Run :=
  { run with failures := (channel, reason) :: run.failures }

theorem Run.EndsWithin.retried {left : Nat} {run : Run} (ends : run.EndsWithin left) (channel : Nat)
    (reason : String) : (run.retried channel reason).EndsWithin (left + 1) where
  most := Nat.succ_le_succ ends.most
  used_up i text last := congrArg (· + 1) (ends.used_up i text last)

namespace Exchange

theorem answersTo_exchanges (run : Run) : answersTo run.index run.exchanges = run.answers := by
  rw [answersTo, Run.exchanges, List.filterMap_map]
  exact (List.filterMap_congr fun _ _ => if_pos rfl).trans List.filterMap_some

theorem answersTo_other {run : Run} {index : Nat} (ne : run.index ≠ index) :
    answersTo index run.exchanges = [] :=
  answersTo_eq_nil fun _ mem reads => ne ((run.tries.reads mem).unique reads)

/-- No other run reads a channel that has a run. -/
theorem answersTo_runs {runs : List Run} (distinct : (runs.map (·.index)).Nodup) {run : Run}
    (mem : run ∈ runs) : answersTo run.index (runs.flatMap Run.exchanges) = run.answers := by
  induction runs with
  | nil => contradiction
  | cons first later ih =>
    obtain ⟨fresh, distinct⟩ := List.nodup_cons.mp distinct
    rw [List.flatMap_cons, answersTo_append]
    rcases List.mem_cons.mp mem with rfl | behind
    · have silent : answersTo run.index (later.flatMap Run.exchanges) = [] := by
        refine answersTo_eq_nil fun exchange inside reads => ?_
        obtain ⟨other, among, part⟩ := List.mem_flatMap.mp inside
        exact fresh (List.mem_map.mpr ⟨other, among, (other.tries.reads part).unique reads⟩)
      rw [answersTo_exchanges, silent, List.append_nil]
    · have ne : first.index ≠ run.index := fun same =>
        fresh (List.mem_map.mpr ⟨run, behind, same.symm⟩)
      rw [answersTo_other ne, ih distinct behind, List.nil_append]

end Exchange

namespace Collector
variable {σ : Type} [Sampler σ]
open Exchange

/-- With a retry left, a channel is read again after a read error, and any other answer counts. -/
theorem run_succ (index left : Nat) (s : σ) :
    run index (left + 1) s =
      match (Sampler.readChannel s index).1 with
      | .error (.read channel reason) =>
        (run index left (Sampler.readChannel s index).2).retried channel reason
      | answer => ⟨index, [], answer⟩ := by
  simp only [run, readWithRetry, failures]
  generalize Sampler.readChannel s index = asked
  obtain ⟨(_ | ⟨channel, reason⟩) | raw, next⟩ := asked <;> rfl

theorem run_endsWithin (index left : Nat) (s : σ) : (run index left s).EndsWithin left := by
  induction left generalizing s with
  | zero => exact ⟨Nat.le_refl 0, fun _ _ _ => rfl⟩
  | succ left ih =>
    rw [run_succ]
    split
    next channel reason _ => exact (ih _).retried channel reason
    next other =>
      exact ⟨Nat.zero_le _, fun channel reason last => absurd last (other channel reason)⟩

section
variable {retries index : Nat} {enabled : List Bool} {s : σ}

theorem endsWithin_of_mem_runs {run : Run} (mem : run ∈ runs retries index enabled s) :
    run.EndsWithin retries := by
  induction enabled generalizing index s with
  | nil => contradiction
  | cons on rest ih =>
    cases on with
    | true =>
      rcases List.mem_cons.mp mem with rfl | later
      · exact run_endsWithin index retries s
      · exact ih later
    | false => exact ih mem

theorem map_index_runs :
    (runs retries index enabled s).map (·.index) = enabled.findIdxs id index := by
  induction enabled generalizing index s with
  | nil => rfl
  | cons on rest ih =>
    rw [List.findIdxs_cons]
    cases on with
    | true => exact congrArg (index :: ·) ih
    | false => exact ih

/-- The end of a run is the answer for the channel. -/
theorem survey_of_mem_runs {run : Run} (mem : run ∈ runs retries index enabled s) :
    ∃ i, run.index = index + i ∧
      (survey retries index enabled s).1[i]? = some (some run.last) := by
  induction enabled generalizing index s with
  | nil => contradiction
  | cons on rest ih =>
    cases on with
    | true =>
      rcases List.mem_cons.mp mem with rfl | later
      · exact ⟨0, rfl, rfl⟩
      · obtain ⟨i, at_, answer⟩ := ih later
        exact ⟨i + 1, by omega, answer⟩
    | false =>
      obtain ⟨i, at_, answer⟩ := ih mem
      exact ⟨i + 1, by omega, answer⟩

end

theorem readChannels_summary (alpha : Option Float) (retries index : Nat) (channels : List Channel)
    (s : σ) (summary : CycleSummary) :
    let passed := runs retries index (channels.map (·.enabled)) s
    (readChannels alpha retries index channels s summary).2.1 =
      { read := summary.read + passed.countP (·.last.isOk)
        failed := summary.failed + passed.countP (!·.last.isOk) } := by
  induction channels generalizing index s summary with
  | nil => rfl
  | cons c rest ih =>
    cases enabled : c.enabled with
    | true =>
      simp only [readChannels, runs, List.map_cons, enabled, if_true, ih, run, List.countP_cons]
      cases (readWithRetry index retries s).1 with
      | error e =>
        have failed : (Except.error e : Except SamplerError Int32).isOk = false := rfl
        simp [failed, Nat.add_assoc, Nat.add_comm]
      | ok raw =>
        have read : (Except.ok raw : Except SamplerError Int32).isOk = true := rfl
        simp [read, Nat.add_assoc, Nat.add_comm]
    | false => simp [readChannels, runs, enabled, ih]

/-- The reads of a cycle. -/
def cycleRuns (c : Collector σ) : List Run :=
  runs c.retries 0 (c.channels.map (·.enabled)) c.sampler

theorem collect_summary (c : Collector σ) :
    c.collect.1 =
      { read := c.cycleRuns.countP (·.last.isOk)
        failed := c.cycleRuns.countP (!·.last.isOk) } := by
  have summary := readChannels_summary c.filterAlpha c.retries 0 c.channels c.sampler {}
  simp only [Nat.zero_add] at summary
  exact summary

theorem map_index_cycleRuns (c : Collector σ) :
    c.cycleRuns.map (·.index) = c.channels.findIdxs (·.enabled) := by
  rw [cycleRuns, map_index_runs, List.findIdxs_map]
  rfl

@[simp] theorem raw_settle (alpha : Option Float) (channel : Channel)
    (answer : Except SamplerError Int32) : (settle alpha channel answer).raw = answer.toOption := by
  cases answer <;> cases alpha <;> rfl

theorem getElem?_collect (c : Collector σ) (index : Nat) :
    c.collect.2.channels[index]? = c.channels[index]?.map fun channel =>
      channel.observe c.filterAlpha
        ((cycle c.retries (c.channels.map (·.enabled)) c.sampler).1.answer index) := by
  rw [collect_eq, List.getElem?_mapIdx]

section
variable {c : Collector σ}

theorem answersTo_cycleRun {run : Run} (mem : run ∈ c.cycleRuns) :
    answersTo run.index c.exchanges = run.answers := by
  have distinct : (c.cycleRuns.map (·.index)).Nodup :=
    c.map_index_cycleRuns ▸ List.nodup_findIdxs
  rw [exchanges_eq, cycleExchanges, answersTo_append]
  exact (List.append_nil _).trans (answersTo_runs distinct mem)

/-- A channel that has a run is settled with the answer at its end. -/
theorem settle_of_mem_cycleRuns {run : Run} (mem : run ∈ c.cycleRuns) :
    ∃ channel, c.channels[run.index]? = some channel ∧
      c.collect.2.channels[run.index]? = some (settle c.filterAlpha channel run.last) := by
  obtain ⟨i, at_, answered⟩ := survey_of_mem_runs mem
  rw [Nat.zero_add] at at_
  have inside : i < c.channels.length := by
    have := (List.getElem?_eq_some_iff.mp answered).1
    rwa [length_survey, List.length_map] at this
  have answer : (cycle c.retries (c.channels.map (·.enabled)) c.sampler).1.answer i =
      some run.last := congrArg Option.join answered
  have here := List.getElem?_eq_getElem inside
  rw [getElem?_collect, at_, answer, here]
  exact ⟨_, rfl, rfl⟩

/-- A channel that is not enabled is not read, and stays as it is. -/
theorem unread_of_disabled {i : Nat}
    (off : ∀ channel, c.channels[i]? = some channel → channel.enabled = false) :
    answersTo i c.exchanges = [] ∧ c.collect.2.channels[i]? = c.channels[i]? := by
  have heard : (cycle c.retries (c.channels.map (·.enabled)) c.sampler).1 ∈
      (cycles c.retries (c.channels.map (·.enabled)) 1 c.sampler).1 := List.mem_singleton.mpr rfl
  have silent : (cycle c.retries (c.channels.map (·.enabled)) c.sampler).1.answer i = none := by
    rw [← Option.not_isSome_iff_eq_none, isSome_answer heard, List.getElem?_map]
    cases here : c.channels[i]? with
    | none => simp
    | some channel => simp [off channel here]
  refine ⟨?_, ?_⟩
  · rw [exchanges_eq]
    exact answersTo_eq_nil ((tells_cycleExchanges ..).unread silent)
  · rw [getElem?_collect, silent]
    exact Option.map_id'

end
end Collector

/-- A sampler that answers for each channel from an input of its own: a read takes its answer from
the input of the channel, and leaves the others as they are. -/
structure Sampler.Separate (σ : Type) [Sampler σ] (ι : Type) where
  input : Nat → σ → ι
  answer : Nat → ι → Except SamplerError Int32
  next : Nat → ι → ι
  reads : ∀ s index, (Sampler.readChannel s index).1 = answer index (input index s)
  moves : ∀ s index, input index (Sampler.readChannel s index).2 = next index (input index s)
  stays : ∀ s index other, other ≠ index →
    input other (Sampler.readChannel s index).2 = input other s

namespace Sampler.Separate
open Collector Exchange
variable {σ ι : Type} [Sampler σ] (inputs : Sampler.Separate σ ι)
include inputs

/-- A run depends on the input of its channel alone. -/
theorem run_congr {index : Nat} {s s' : σ} (same : inputs.input index s = inputs.input index s')
    (left : Nat) : run index left s = run index left s' := by
  have answer : (Sampler.readChannel s index).1 = (Sampler.readChannel s' index).1 := by
    rw [inputs.reads, inputs.reads, same]
  induction left generalizing s s' with
  | zero => exact congrArg (Run.mk index []) answer
  | succ left ih =>
    have moved : inputs.input index (Sampler.readChannel s index).2 =
        inputs.input index (Sampler.readChannel s' index).2 := by
      rw [inputs.moves, inputs.moves, same]
    have later := ih moved (by rw [inputs.reads, inputs.reads, moved])
    rw [run_succ, run_succ, answer, later]

theorem input_readWithRetry {index other : Nat} (ne : other ≠ index) (left : Nat) (s : σ) :
    inputs.input other (readWithRetry index left s).2 = inputs.input other s := by
  induction left generalizing s with
  | zero => exact inputs.stays s index other ne
  | succ left ih =>
    have stays := inputs.stays s index other ne
    unfold readWithRetry
    split
    next failed =>
      rw [failed] at stays
      rw [ih, stays]
    next => exact stays

/-- Whatever was read before it, an enabled channel has the run that it would have alone. -/
theorem run_mem_runs {enabled : List Bool} {i : Nat} (on : enabled[i]? = some true)
    (retries index : Nat) (s : σ) :
    run (index + i) retries s ∈ runs retries index enabled s := by
  induction enabled generalizing index i s with
  | nil => contradiction
  | cons first rest ih =>
    cases i with
    | zero =>
      cases Option.some.inj on
      exact List.mem_cons_self
    | succ i =>
      have place : index + (i + 1) = index + 1 + i := by omega
      rw [List.getElem?_cons_succ] at on
      rw [place]
      cases first with
      | true =>
        have untouched := inputs.input_readWithRetry (show index + 1 + i ≠ index by omega) retries s
        rw [← inputs.run_congr untouched]
        exact List.mem_cons_of_mem _ (ih on (index + 1) _)
      | false => exact ih on (index + 1) s

theorem run_mem_cycleRuns {c : Collector σ} {i : Nat} {channel : Channel}
    (here : c.channels[i]? = some channel) (on : channel.enabled = true) :
    run i c.retries c.sampler ∈ c.cycleRuns := by
  have enabled : (c.channels.map (·.enabled))[i]? = some true := by
    rw [List.getElem?_map, here, Option.map_some, on]
  have mem := inputs.run_mem_runs enabled c.retries 0 c.sampler
  rwa [Nat.zero_add] at mem

/-- Two collectors that treat a channel alike and have the same input for it. What else they read,
and with what success, is left open. -/
structure Agree (i : Nat) (c d : Collector σ) : Prop where
  retries : c.retries = d.retries
  filterAlpha : c.filterAlpha = d.filterAlpha
  channel : c.channels[i]? = d.channels[i]?
  input : inputs.input i c.sampler = inputs.input i d.sampler

theorem read_alone {c : Collector σ} {i : Nat} {channel : Channel}
    (here : c.channels[i]? = some channel) (on : channel.enabled = true) :
    answersTo i c.exchanges = (run i c.retries c.sampler).answers ∧
      c.collect.2.channels[i]? =
        some (settle c.filterAlpha channel (run i c.retries c.sampler).last) := by
  have mem := inputs.run_mem_cycleRuns here on
  obtain ⟨found, before, after⟩ := settle_of_mem_cycleRuns mem
  cases here.symm.trans before
  exact ⟨answersTo_cycleRun mem, after⟩

theorem Agree.collect {i : Nat} {c d : Collector σ} (agree : inputs.Agree i c d) :
    answersTo i c.exchanges = answersTo i d.exchanges ∧
      c.collect.2.channels[i]? = d.collect.2.channels[i]? := by
  by_cases on : ∃ channel, d.channels[i]? = some channel ∧ channel.enabled = true
  · obtain ⟨channel, here, on⟩ := on
    obtain ⟨calls, outcome⟩ := inputs.read_alone (agree.channel.trans here) on
    obtain ⟨calls', outcome'⟩ := inputs.read_alone here on
    have same : run i c.retries c.sampler = run i d.retries d.sampler := by
      rw [agree.retries]
      exact inputs.run_congr agree.input _
    exact ⟨by rw [calls, calls', same], by rw [outcome, outcome', same, agree.filterAlpha]⟩
  · have off : ∀ channel, d.channels[i]? = some channel → channel.enabled = false :=
      fun channel here => Bool.eq_false_iff.mpr fun enabled => on ⟨channel, here, enabled⟩
    obtain ⟨calls, outcome⟩ := unread_of_disabled (c := c) (agree.channel ▸ off)
    obtain ⟨calls', outcome'⟩ := unread_of_disabled off
    exact ⟨by rw [calls, calls'], by rw [outcome, outcome', agree.channel]⟩

end Sampler.Separate

namespace Playback

theorem answers_readChannel (s : Playback) (index : Nat) :
    (Sampler.readChannel s index).2.answers =
      s.answers.set index (s.answers[index]?.getD []).tail := by
  have answers : (Sampler.readChannel s index).2.answers = (s.next index).2.answers := by
    simp only [Sampler.readChannel]
    rcases s.next index with ⟨_ | _ | _, _⟩ <;> rfl
  rw [answers, Playback.next]
  rcases found : s.answers[index]? with _ | _ | ⟨answer, later⟩
  · exact (List.set_eq_of_length_le (List.getElem?_eq_none_iff.mp found)).symm
  · obtain ⟨inside, empty⟩ := List.getElem?_eq_some_iff.mp found
    have same := List.set_getElem_self inside
    rw [empty] at same
    exact same.symm
  · rfl

/-- The recorded answers for a channel are its input. -/
def inputs : Sampler.Separate Playback (List Playback.Answer) where
  input index s := s.answers[index]?.getD []
  answer index input :=
    match input.headD .missing with
    | .reading raw => .ok raw
    | .failure reason => .error (.read index reason)
    | .missing => .error (.invalidChannel index)
  next _ input := input.tail
  reads s index := by
    simp only [Sampler.readChannel, Playback.next]
    rcases s.answers[index]? with _ | _ | ⟨_ | _ | _, _⟩ <;> rfl
  moves s index := by
    rw [answers_readChannel, List.getElem?_set_self']
    cases s.answers[index]? <;> rfl
  stays s index other ne := by
    rw [answers_readChannel, List.getElem?_set_ne ne.symm]

end Playback

namespace Collector
variable {σ : Type} [Sampler σ]
open Exchange

/-- What one cycle asks its sampler for. There is one run of calls for each enabled channel, in the
order of the channels and one after the other, and then the position is asked for. A run ends at the
first reading, at the first answer that there is no such channel, or at the read error for which no
retry is left, and not before. The channel has the reading at the end of its run, or none, and is
counted as read or as failed by that. A sampler with an input for each channel gives the same
answers to the calls for a channel, with the same outcome, whatever the other channels have to
answer. -/
theorem collect_reads_in_runs (c : Collector σ) :
    (c.recorded []).collect.2 = c.collect.2.recorded c.exchanges ∧
      (∃ (runs : List Run) (report : Option GpsFix),
        c.exchanges = runs.flatMap Run.exchanges ++ [.report report] ∧
        runs.map (·.index) = c.channels.findIdxs (·.enabled) ∧
        (∀ run ∈ runs, run.EndsWithin c.retries ∧
          ∃ channel, c.collect.2.channels[run.index]? = some channel ∧
            channel.raw = run.last.toOption) ∧
        c.collect.1 =
          { read := runs.countP (·.last.isOk), failed := runs.countP (!·.last.isOk) }) ∧
      c.collect.1.read + c.collect.1.failed = c.channels.countP (·.enabled) ∧
      ∀ (ι : Type) (inputs : Sampler.Separate σ ι) (i : Nat) (d : Collector σ),
        inputs.Agree i c d →
          answersTo i c.exchanges = answersTo i d.exchanges ∧
            c.collect.2.channels[i]? = d.collect.2.channels[i]? := by
  refine ⟨c.collect_recorded [], ⟨c.cycleRuns, _, c.exchanges_eq, c.map_index_cycleRuns,
    fun run mem => ⟨endsWithin_of_mem_runs mem, ?_⟩, c.collect_summary⟩, ?_,
    fun ι inputs i d => Sampler.Separate.Agree.collect inputs⟩
  · obtain ⟨channel, _, after⟩ := settle_of_mem_cycleRuns mem
    exact ⟨_, after, raw_settle c.filterAlpha channel run.last⟩
  · have asked : c.cycleRuns.length = c.channels.countP (·.enabled) := by
      rw [← List.length_map (·.index), map_index_cycleRuns, List.length_findIdxs]
    have parts := List.length_eq_countP_add_countP (l := c.cycleRuns) fun run => run.last.isOk
    rw [collect_summary, ← asked, parts]
    simp

/-- Three channels that are read: one at the second try, one that is not there, and one that fails
for good. -/
def flakyStation : Collector Playback where
  sampler :=
    { answers := [[.failure "busy", .reading 5], [.missing], [.reading 1],
        [.failure "busy", .failure "noise", .failure "busy", .reading 9]] }
  channels := [{ id := "a", unit := "V" }, { id := "b", unit := "V" },
    { id := "c", unit := "V", enabled := false }, { id := "d", unit := "V" }]
  filterAlpha := none
  retries := 2

/-- The first of these channels alone. -/
def lonelyStation : Collector Playback where
  sampler := { answers := [[.failure "busy", .reading 5]] }
  channels := [{ id := "a", unit := "V" }]
  filterAlpha := none
  retries := 2

theorem flakyStation_reads_in_runs :
    (∃ (runs : List Run) (report : Option GpsFix),
      flakyStation.exchanges = runs.flatMap Run.exchanges ++ [.report report] ∧
        runs.map (·.index) = [0, 1, 3] ∧ ∀ run ∈ runs, run.EndsWithin 2) ∧
      flakyStation.collect.1 = { read := 1, failed := 2 } ∧
      answersTo 0 flakyStation.exchanges = [.error (.read 0 "busy"), .ok 5] ∧
      answersTo 3 flakyStation.exchanges =
        [.error (.read 3 "busy"), .error (.read 3 "noise"), .error (.read 3 "busy")] ∧
      Playback.inputs.Agree 0 flakyStation lonelyStation ∧
      answersTo 0 flakyStation.exchanges = answersTo 0 lonelyStation.exchanges ∧
      flakyStation.collect.2.channels[0]? = lonelyStation.collect.2.channels[0]? := by
  obtain ⟨_, ⟨runs, report, log, order, ends, _⟩, _, alone⟩ := collect_reads_in_runs flakyStation
  have agree : Playback.inputs.Agree 0 flakyStation lonelyStation := ⟨rfl, rfl, rfl, rfl⟩
  have summary : flakyStation.collect.1 = { read := 1, failed := 2 } := by decide +kernel
  have first : answersTo 0 flakyStation.exchanges = [.error (.read 0 "busy"), .ok 5] := by
    decide +kernel
  have last : answersTo 3 flakyStation.exchanges =
      [.error (.read 3 "busy"), .error (.read 3 "noise"), .error (.read 3 "busy")] := by
    decide +kernel
  exact ⟨⟨runs, report, log, order, fun run mem => (ends run mem).1⟩, summary, first, last, agree,
    alone _ Playback.inputs 0 lonelyStation agree⟩

end Collector
end TelemetryRelay
