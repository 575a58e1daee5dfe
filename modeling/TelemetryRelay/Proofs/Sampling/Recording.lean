import Mathlib.Data.List.Forall2
import TelemetryRelay.Proofs.Sampling.Readings

namespace TelemetryRelay

/-- What a sampler is asked for, and what it answers. -/
inductive Exchange where
  | read (index : Nat) (answer : Except SamplerError Int32)
  | report (fix : Option GpsFix)

/-- A sampler with all exchanges so far. -/
structure Recorded (σ : Type) where
  sampler : σ
  log : List Exchange

instance {σ : Type} [Sampler σ] : Sampler (Recorded σ) where
  channelCount s := Sampler.channelCount s.sampler
  readChannel s index :=
    match Sampler.readChannel s.sampler index with
    | (answer, sampler) => (answer, { sampler, log := s.log ++ [.read index answer] })
  readGps s :=
    match Sampler.readGps s.sampler with
    | (fix, sampler) => (fix, { sampler, log := s.log ++ [.report fix] })

namespace Exchange

/-- The count that an exchange gives for a channel. -/
def count? (index : Nat) : Exchange → Option Int32
  | read i (.ok raw) => if i = index then some raw else none
  | _ => none

/-- The position that an exchange gives, if all its parts are finite. -/
def position? : Exchange → Option GpsFix
  | report (some fix) =>
    if Binary64.isFinite fix.latitude ∧ Binary64.isFinite fix.longitude ∧
      Binary64.isFinite fix.altitude ∧ Binary64.isFinite fix.speed then some fix else none
  | _ => none

/-- Whether an exchange reads a channel. -/
def Reads (index : Nat) (exchange : Exchange) : Prop :=
  ∃ answer, exchange = read index answer

theorem position?_report (report : Option GpsFix) :
    position? (.report report) = report.filter (·.isValid) := by
  cases report with
  | none => rfl
  | some fix => simp [position?, Option.filter, GpsFix.isValid, and_assoc]

theorem Reads.unique {i j : Nat} {exchange : Exchange} (hi : exchange.Reads i)
    (hj : exchange.Reads j) : i = j := by
  obtain ⟨_, rfl⟩ := hi
  obtain ⟨_, same⟩ := hj
  exact (read.inj same).1

/-- The successful readings of a channel. -/
def readings (index : Nat) (log : List Exchange) : List Int32 :=
  log.filterMap (count? index)

/-- The last usable position. -/
def latestPosition (log : List Exchange) : Option GpsFix :=
  (log.filterMap position?).getLast?

theorem readings_append (index : Nat) (log later : List Exchange) :
    readings index (log ++ later) = readings index log ++ readings index later :=
  List.filterMap_append

/-- The answer to a read of a channel. -/
def answer? (index : Nat) : Exchange → Option (Except SamplerError Int32)
  | read i answer => if i = index then some answer else none
  | report _ => none

/-- The answers to the reads of a channel, one after the other. -/
def answersTo (index : Nat) (log : List Exchange) : List (Except SamplerError Int32) :=
  log.filterMap (answer? index)

theorem answersTo_append (index : Nat) (log later : List Exchange) :
    answersTo index (log ++ later) = answersTo index log ++ answersTo index later :=
  List.filterMap_append

theorem answersTo_eq_nil {index : Nat} {log : List Exchange}
    (unread : ∀ exchange ∈ log, ¬ exchange.Reads index) : answersTo index log = [] := by
  refine List.filterMap_eq_nil_iff.mpr fun exchange mem => ?_
  cases exchange with
  | report fix => rfl
  | read i answer =>
    have other : i ≠ index := by
      rintro rfl
      exact unread _ mem ⟨answer, rfl⟩
    exact if_neg other

/-- The successful readings are the answers that hold a count. -/
theorem readings_eq (index : Nat) (log : List Exchange) :
    readings index log = (answersTo index log).filterMap Except.toOption := by
  rw [answersTo, List.filterMap_filterMap]
  refine List.filterMap_congr fun exchange _ => ?_
  cases exchange with
  | report fix => rfl
  | read i answer =>
    by_cases here : i = index
    · cases answer <;> simp [count?, answer?, Except.toOption, here]
    · cases answer <;> simp [count?, answer?, here]

theorem readings_eq_nil {index : Nat} {log : List Exchange}
    (unread : ∀ exchange ∈ log, ¬ exchange.Reads index) : readings index log = [] := by
  rw [readings_eq, answersTo_eq_nil unread, List.filterMap_nil]

/-- The exchanges of one read with its retries, and the answer that counts: nothing is read again
after a success. -/
inductive Tries (index : Nat) : List Exchange → Except SamplerError Int32 → Prop where
  | last (answer : Except SamplerError Int32) : Tries index [.read index answer] answer
  | again {log : List Exchange} {answer : Except SamplerError Int32} (e : SamplerError)
      (rest : Tries index log answer) : Tries index (.read index (.error e) :: log) answer

section
variable {index : Nat} {log : List Exchange} {answer : Except SamplerError Int32}

theorem Tries.reads (h : Tries index log answer) {exchange : Exchange} (mem : exchange ∈ log) :
    exchange.Reads index := by
  induction h with
  | last answer => exact ⟨answer, List.mem_singleton.mp mem⟩
  | again e _ ih =>
    rcases List.mem_cons.mp mem with rfl | later
    · exact ⟨_, rfl⟩
    · exact ih later

theorem Tries.readings (h : Tries index log answer) :
    Exchange.readings index log = answer.toOption.toList := by
  induction h with
  | last answer => cases answer <;> simp [Exchange.readings, count?, Except.toOption]
  | again e _ ih => exact ih

theorem Tries.readings_other (h : Tries index log answer) {other : Nat} (ne : other ≠ index) :
    Exchange.readings other log = [] :=
  readings_eq_nil fun _ mem asks => ne (asks.unique (h.reads mem))

theorem Tries.exists_read (h : Tries index log answer) :
    ∃ exchange ∈ log, exchange.Reads index := by
  cases h <;> exact ⟨_, List.mem_cons_self, _, rfl⟩

theorem Tries.positions (h : Tries index log answer) : log.filterMap position? = [] := by
  refine List.filterMap_eq_nil_iff.mpr fun exchange mem => ?_
  obtain ⟨_, rfl⟩ := h.reads mem
  rfl

end

end Exchange

/-- One read of a channel with its retries: the failures after which it was tried again, each with
the channel and the reason that were named, and the answer that counts. -/
structure Run where
  index : Nat
  failures : List (Nat × String)
  last : Except SamplerError Int32

namespace Run

/-- The answers to the calls, one after the other. -/
def answers (run : Run) : List (Except SamplerError Int32) :=
  run.failures.map (fun failure => .error (.read failure.1 failure.2)) ++ [run.last]

def exchanges (run : Run) : List Exchange :=
  run.answers.map (.read run.index)

theorem tries (run : Run) : Exchange.Tries run.index run.exchanges run.last := by
  obtain ⟨index, failures, last⟩ := run
  induction failures with
  | nil => exact .last last
  | cons failure _ ih => exact .again (.read failure.1 failure.2) ih

end Run

namespace Exchange

/-- The exchanges that read the channels from an index on, each asked channel in its turn. -/
inductive Turns : Nat → List Answer → List Exchange → Prop where
  | none_left (index : Nat) : Turns index [] []
  | asked {index : Nat} {first log : List Exchange} {answer : Except SamplerError Int32}
      {answers : List Answer} (tries : Tries index first answer)
      (rest : Turns (index + 1) answers log) : Turns index (some answer :: answers) (first ++ log)
  | left_out {index : Nat} {log : List Exchange} {answers : List Answer}
      (rest : Turns (index + 1) answers log) : Turns index (none :: answers) log

section
variable {index : Nat} {answers : List Answer} {log : List Exchange}

theorem Turns.le_of_reads (h : Turns index answers log) {exchange : Exchange} (mem : exchange ∈ log)
    {i : Nat} (reads : exchange.Reads i) : index ≤ i := by
  induction h with
  | none_left => simp at mem
  | asked tries _ ih =>
    rcases List.mem_append.mp mem with here | later
    · exact Nat.le_of_eq ((tries.reads here).unique reads)
    · exact Nat.le_of_succ_le (ih later)
  | left_out _ ih => exact Nat.le_of_succ_le (ih mem)

theorem Turns.readings_before (h : Turns index answers log) {i : Nat} (before : i < index) :
    Exchange.readings i log = [] :=
  readings_eq_nil fun _ mem reads => Nat.not_le.mpr before (h.le_of_reads mem reads)

theorem Turns.readings (h : Turns index answers log) (i : Nat) :
    Exchange.readings (index + i) log =
      ((answers[i]?).join.bind Except.toOption).toList := by
  induction h generalizing i with
  | none_left => rfl
  | @asked index _ _ _ _ tries rest ih =>
    rw [readings_append]
    cases i with
    | zero => simp [tries.readings, rest.readings_before]
    | succ i =>
      rw [tries.readings_other (by omega), List.nil_append, List.getElem?_cons_succ, ← ih i,
        Nat.add_right_comm, Nat.add_assoc]
  | @left_out index _ _ rest ih =>
    cases i with
    | zero => simpa using rest.readings_before (Nat.lt_succ_self index)
    | succ i => rw [List.getElem?_cons_succ, ← ih i, Nat.add_right_comm, Nat.add_assoc]

theorem Turns.unread (h : Turns index answers log) {i : Nat} (silent : (answers[i]?).join = none) :
    ∀ exchange ∈ log, ¬ exchange.Reads (index + i) := by
  induction h generalizing i with
  | none_left => simp
  | @asked index _ _ _ _ tries _ ih =>
    intro exchange mem asks
    cases i with
    | zero => simp at silent
    | succ i =>
      rcases List.mem_append.mp mem with here | later
      · have same := asks.unique (tries.reads here)
        omega
      · rw [← Nat.add_assoc, Nat.add_right_comm] at asks
        exact ih silent exchange later asks
  | @left_out index _ _ rest ih =>
    intro exchange mem asks
    cases i with
    | zero => exact Nat.not_le.mpr (Nat.lt_succ_self index) (rest.le_of_reads mem asks)
    | succ i =>
      rw [← Nat.add_assoc, Nat.add_right_comm] at asks
      exact ih silent exchange mem asks

theorem Turns.exists_read (h : Turns index answers log) {i : Nat}
    (asked : (answers[i]?).join.isSome = true) : ∃ exchange ∈ log, exchange.Reads (index + i) := by
  induction h generalizing i with
  | none_left => simp at asked
  | asked tries _ ih =>
    cases i with
    | zero =>
      obtain ⟨exchange, here, reads⟩ := tries.exists_read
      exact ⟨exchange, List.mem_append_left _ here, reads⟩
    | succ i =>
      obtain ⟨exchange, later, reads⟩ := ih asked
      rw [Nat.add_right_comm, Nat.add_assoc] at reads
      exact ⟨exchange, List.mem_append_right _ later, reads⟩
  | left_out _ ih =>
    cases i with
    | zero => simp at asked
    | succ i =>
      obtain ⟨exchange, later, reads⟩ := ih asked
      rw [Nat.add_right_comm, Nat.add_assoc] at reads
      exact ⟨exchange, later, reads⟩

theorem Turns.positions (h : Turns index answers log) : log.filterMap position? = [] := by
  induction h with
  | none_left => rfl
  | asked tries _ ih => rw [List.filterMap_append, tries.positions, ih, List.nil_append]
  | left_out _ ih => exact ih

end

/-- The exchanges of a cycle: each enabled channel is read in its turn, and then the position is
asked for. -/
inductive Tells : List Exchange → Cycle → Prop where
  | turns {log : List Exchange} {answers : List Answer} {report : Option GpsFix}
      (read : Turns 0 answers log) : Tells (log ++ [.report report]) { answers, report }

section
variable {log : List Exchange} {cycle : Cycle}

theorem Tells.readings (h : Tells log cycle) (i : Nat) :
    Exchange.readings i log = ((cycle.answer i).bind Except.toOption).toList := by
  cases h with
  | turns read =>
    have eq := read.readings i
    rw [Nat.zero_add] at eq
    rw [readings_append, eq]
    exact List.append_nil _

theorem Tells.unread (h : Tells log cycle) {i : Nat} (silent : cycle.answer i = none) :
    ∀ exchange ∈ log, ¬ exchange.Reads i := by
  cases h with
  | turns read =>
    have before := read.unread silent
    rw [Nat.zero_add] at before
    refine List.forall_mem_append.mpr ⟨before, List.forall_mem_singleton.mpr ?_⟩
    rintro ⟨_, eq⟩
    contradiction

theorem Tells.exists_read (h : Tells log cycle) {i : Nat}
    (asked : (cycle.answer i).isSome = true) : ∃ exchange ∈ log, exchange.Reads i := by
  cases h with
  | turns read =>
    obtain ⟨exchange, mem, reads⟩ := read.exists_read asked
    rw [Nat.zero_add] at reads
    exact ⟨exchange, List.mem_append_left _ mem, reads⟩

theorem Tells.exists_report (h : Tells log cycle) : ∃ fix, report fix ∈ log := by
  cases h with
  | @turns _ _ fix _ => exact ⟨fix, List.mem_append_right _ List.mem_cons_self⟩

theorem Tells.positions (h : Tells log cycle) :
    log.filterMap position? = (cycle.report.filter (·.isValid)).toList := by
  cases h with
  | @turns _ _ report read =>
    rw [List.filterMap_append, read.positions, List.nil_append, List.filterMap_cons,
      position?_report]
    cases report.filter (·.isValid) <;> rfl

end

section
variable {logs : List (List Exchange)} {cycles : List Cycle} (h : List.Forall₂ Tells logs cycles)
include h

theorem map_readings (i : Nat) :
    logs.map (readings i) =
      (cycles.map (·.answer i)).map fun answer => (answer.bind Except.toOption).toList := by
  induction h with
  | nil => rfl
  | cons tells _ ih => rw [List.map_cons, tells.readings, ih, List.map_cons, List.map_cons]

theorem readings_flatten (i : Nat) :
    readings i logs.flatten = counts (cycles.map (·.answer i)) := by
  have joined : readings i logs.flatten = (logs.map (readings i)).flatten := List.filterMap_flatten
  rw [joined, map_readings h, ← List.flatMap_def, ← List.filterMap_eq_flatMap_toList, counts]

theorem getLast?_readings (i : Nat) :
    (logs.getLast?.bind fun log => (readings i log).getLast?) =
      (cycles.map (·.answer i)).getLast?.join.bind Except.toOption := by
  have last := congrArg List.getLast? (map_readings h i)
  rw [List.getLast?_map, List.getLast?_map] at last
  have through : (logs.getLast?.bind fun log => (readings i log).getLast?) =
      (logs.getLast?.map (readings i)).bind List.getLast? := by
    cases logs.getLast? <;> rfl
  rw [through, last]
  generalize (cycles.map (·.answer i)).getLast? = found
  rcases found with _ | answer
  · rfl
  · cases count : answer.bind Except.toOption <;> simp [count]

theorem forall_logs {P : Cycle → Prop} {Q : List Exchange → Prop}
    (each : ∀ {log cycle}, Tells log cycle → P cycle → Q log) (all : ∀ cycle ∈ cycles, P cycle) :
    ∀ log ∈ logs, Q log := by
  induction h with
  | nil => simp
  | cons tells _ ih =>
    obtain ⟨here, later⟩ := List.forall_mem_cons.mp all
    exact List.forall_mem_cons.mpr ⟨each tells here, ih later⟩

theorem latestPosition_flatten : latestPosition logs.flatten = latestFix cycles := by
  have positions : logs.flatten.filterMap position? =
      (cycles.filterMap (·.report)).filter (·.isValid) := by
    induction h with
    | nil => rfl
    | @cons _ cycle _ _ tells _ ih =>
      rw [List.flatten_cons, List.filterMap_append, tells.positions, ih, List.filterMap_cons]
      rcases report : cycle.report with _ | fix
      · rfl
      · cases valid : fix.isValid <;> simp [Option.filter, valid]
  rw [latestPosition, positions, latestFix]

end
end Exchange

namespace Collector
variable {σ : Type} [Sampler σ]
open Exchange

/-- The failures after which a channel is tried again. -/
def failures (index : Nat) : Nat → σ → List (Nat × String)
  | 0, _ => []
  | left + 1, s =>
    match Sampler.readChannel s index with
    | (.error (.read channel reason), s) => (channel, reason) :: failures index left s
    | _ => []

/-- What passes when a channel is read with retries. -/
def run (index left : Nat) (s : σ) : Run :=
  ⟨index, failures index left s, (readWithRetry index left s).1⟩

/-- What passes when the enabled channels from an index on are read. -/
def runs (retries : Nat) : Nat → List Bool → σ → List Run
  | _, [], _ => []
  | index, true :: rest, s =>
    run index retries s :: runs retries (index + 1) rest (readWithRetry index retries s).2
  | index, false :: rest, s => runs retries (index + 1) rest s

theorem turns_runs (retries index : Nat) (enabled : List Bool) (s : σ) :
    Turns index (survey retries index enabled s).1
      ((runs retries index enabled s).flatMap Run.exchanges) := by
  induction enabled generalizing index s with
  | nil => exact .none_left index
  | cons on rest ih =>
    cases on with
    | true => exact .asked (run index retries s).tries (ih (index + 1) _)
    | false => exact .left_out (ih (index + 1) s)

theorem readChannel_recorded (index : Nat) (s : σ) (log : List Exchange) :
    Sampler.readChannel (⟨s, log⟩ : Recorded σ) index =
      ((Sampler.readChannel s index).1,
        ⟨(Sampler.readChannel s index).2,
          log ++ [.read index (Sampler.readChannel s index).1]⟩) :=
  rfl

theorem readGps_recorded (s : σ) (log : List Exchange) :
    Sampler.readGps (⟨s, log⟩ : Recorded σ) =
      ((Sampler.readGps s).1, ⟨(Sampler.readGps s).2, log ++ [.report (Sampler.readGps s).1]⟩) :=
  rfl

theorem readWithRetry_recorded (index left : Nat) (s : σ) (log : List Exchange) :
    readWithRetry index left (⟨s, log⟩ : Recorded σ) =
      ((readWithRetry index left s).1,
        ⟨(readWithRetry index left s).2, log ++ (run index left s).exchanges⟩) := by
  induction left generalizing s log with
  | zero => rfl
  | succ left ih =>
    simp only [readWithRetry, run, failures, readChannel_recorded]
    generalize Sampler.readChannel s index = asked
    obtain ⟨answer, next⟩ := asked
    rcases answer with (_ | ⟨channel, reason⟩) | raw
    · rfl
    · dsimp only
      rw [ih, List.append_assoc]
      rfl
    · rfl

theorem survey_recorded (retries index : Nat) (enabled : List Bool) (s : σ) (log : List Exchange) :
    survey retries index enabled (⟨s, log⟩ : Recorded σ) =
      ((survey retries index enabled s).1,
        ⟨(survey retries index enabled s).2,
          log ++ (runs retries index enabled s).flatMap Run.exchanges⟩) := by
  induction enabled generalizing index s log with
  | nil => simp [survey, runs]
  | cons on rest ih =>
    cases on with
    | true => simp [survey, runs, readWithRetry_recorded, ih]
    | false => simp [survey, runs, ih]

/-- The exchanges with a sampler in one cycle. -/
def cycleExchanges (retries : Nat) (enabled : List Bool) (s : σ) : List Exchange :=
  (runs retries 0 enabled s).flatMap Run.exchanges ++ [.report (cycle retries enabled s).1.report]

theorem tells_cycleExchanges (retries : Nat) (enabled : List Bool) (s : σ) :
    Tells (cycleExchanges retries enabled s) (cycle retries enabled s).1 :=
  .turns (turns_runs retries 0 enabled s)

theorem cycle_recorded (retries : Nat) (enabled : List Bool) (s : σ) (log : List Exchange) :
    cycle retries enabled (⟨s, log⟩ : Recorded σ) =
      ((cycle retries enabled s).1,
        ⟨(cycle retries enabled s).2, log ++ cycleExchanges retries enabled s⟩) := by
  simp [cycle, cycleExchanges, survey_recorded, readGps_recorded]

/-- The collector with its sampler recorded from now on. -/
def recorded (c : Collector σ) (log : List Exchange) : Collector (Recorded σ) where
  sampler := ⟨c.sampler, log⟩
  channels := c.channels
  filterAlpha := c.filterAlpha
  retries := c.retries
  lastFix := c.lastFix

/-- The exchanges of the next cycle. -/
def exchanges (c : Collector σ) : List Exchange :=
  (c.recorded []).collect.2.sampler.log

/-- The exchanges of a number of cycles. -/
def transcript (c : Collector σ) : Nat → List (List Exchange)
  | 0 => []
  | count + 1 => c.exchanges :: c.collect.2.transcript count

theorem exchanges_eq (c : Collector σ) :
    c.exchanges = cycleExchanges c.retries (c.channels.map (·.enabled)) c.sampler := by
  simp [exchanges, collect_eq, recorded, cycle_recorded]

theorem collect_recorded (c : Collector σ) (log : List Exchange) :
    (c.recorded log).collect.2 = c.collect.2.recorded (log ++ c.exchanges) := by
  simp [exchanges_eq, collect_eq, recorded, cycle_recorded]

/-- Recording changes nothing, and what is recorded is the transcript. -/
theorem collects_recorded (c : Collector σ) (log : List Exchange) (count : Nat) :
    (c.recorded log).collects count =
      (c.collects count).recorded (log ++ (c.transcript count).flatten) := by
  induction count generalizing c log with
  | zero => simp [collects, transcript]
  | succ count ih =>
    rw [collects, c.collect_recorded, ih, transcript, List.flatten_cons, List.append_assoc,
      collects]

theorem tells_transcript (c : Collector σ) (count : Nat) :
    List.Forall₂ Tells (c.transcript count)
      (cycles c.retries (c.channels.map (·.enabled)) count c.sampler).1 := by
  induction count generalizing c with
  | zero => exact .nil
  | succ count ih =>
    have later := ih c.collect.2
    have enabled : c.collect.2.channels.map (·.enabled) = c.channels.map (·.enabled) := by
      rw [collect_eq]
      exact List.ext_getElem (by simp) fun i _ _ => by simp
    rw [enabled, collect_eq] at later
    refine .cons ?_ (by rw [collect_eq]; exact later)
    rw [exchanges_eq]
    exact tells_cycleExchanges ..

end Collector
end TelemetryRelay
