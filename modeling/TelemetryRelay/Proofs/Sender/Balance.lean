import TelemetryRelay.Proofs.Sender.Accounting

namespace TelemetryRelay.Sender
open Spool (remaining)

section Replays
variable {s : Sender} {owner : Owner} {r : Replay}

theorem step_beginReplay {spool : Spool} (free : s.replaying = none) (may : s.MayReplay owner)
    (begins : s.spool.beginReplay = (.started r, spool)) :
    s.step (.beginReplay owner) = some { s with
      spool, replaying := some (owner, r)
      replayer := if owner = .caller then s.replayer else .busy } := by
  cases owner with
  | caller =>
    have admits : s.admits = true := may
    simp [step, Sender.beginReplay, free, admits, begins]
  | replayer =>
    have ready : s.replayer = .ready := may
    simp [step, Sender.beginReplay, free, ready, begins]

theorem run_offers (replaying : s.replaying = some (owner, r)) {answers : List Bool}
    (each : answers.length = r.ahead.length) :
    ∃ s', s.run (answers.map .offerBatch) = some s' ∧ s'.spool = s.spool ∧
      s'.uncounted = s.uncounted ∧
      s'.replaying = some (owner, answers.foldl (fun r accepted => r.answer accepted) r) := by
  induction answers generalizing s r with
  | nil => exact ⟨s, rfl, rfl, rfl, replaying⟩
  | cons a answers ih =>
    obtain ⟨batch, rest, ahead⟩ := List.exists_cons_of_length_eq_add_one each.symm
    have offers : s.step (.offerBatch a) = some ({ s with
        replaying := some (owner, r.answer a) }.note (.offered batch a)) := by
      simp only [step, offerBatch, replaying, ahead]
    have fewer : answers.length = (r.answer a).ahead.length := by
      simpa [Replay.answer, ahead] using each
    obtain ⟨s', runs, spool, uncounted, atEnd⟩ :=
      ih (s := { s with replaying := some (owner, r.answer a) }.note (.offered batch a)) rfl fewer
    exact ⟨s', by rw [List.map_cons, run, offers, Option.bind_some, runs], spool, uncounted, atEnd⟩

theorem step_settleReplay (replaying : s.replaying = some (owner, r)) (ahead : r.ahead = []) :
    s.step .settleReplay = some { s with
      spool := { s.spool with files := r.settle s.spool.files }
      replaying := none
      uncounted := (owner, r.outcome.linesSent) :: s.uncounted } := by
  simp [step, settleReplay, replaying, ahead]

/-- A replay that a sender carries out step by step leaves the spool as the replay in one go does,
and the lines that it has sent are still to be counted. -/
theorem run_replay {spool : Spool} (free : s.replaying = none) (may : s.MayReplay owner)
    (begins : s.spool.beginReplay = (.started r, spool)) {σ : Type} (send : Bytes → σ → Bool × σ)
    (t : σ) :
    ∃ s' outcome t',
      s.run (.beginReplay owner ::
        ((Spool.answersTo send r.ahead t).1.map .offerBatch ++ [.settleReplay])) = some s' ∧
      s.spool.replay send t = (.ok outcome, s'.spool, t') ∧ s'.replaying = none ∧
      s'.uncounted = (owner, outcome.linesSent) :: s.uncounted := by
  obtain ⟨begun, starts, same, fresh, underway⟩ : ∃ begun, s.step (.beginReplay owner) = some begun ∧
      begun.spool = spool ∧ begun.uncounted = s.uncounted ∧ begun.replaying = some (owner, r) :=
    ⟨_, step_beginReplay free may begins, rfl, rfl, rfl⟩
  have each := Spool.length_answersTo send r.ahead t
  obtain ⟨mid, offers, held, uncounted, atEnd⟩ := run_offers underway each
  have last := Replay.foldl_answer each
  rw [last] at atEnd
  have settles := step_settleReplay atEnd rfl
  have whole := Spool.replay_eq_stepped send s.spool t
  rw [begins, ← same, ← held] at whole
  simp only [last] at whole
  have runs : s.run (.beginReplay owner ::
      ((Spool.answersTo send r.ahead t).1.map .offerBatch ++ [.settleReplay])) =
      mid.step .settleReplay := by
    rw [run, starts, Option.bind_some, run_append, offers, Option.bind_some, run, settles,
      Option.bind_some, run]
  exact ⟨_, _, _, runs.trans settles, whole, rfl, by rw [uncounted, fresh]⟩

end Replays

/-- A sender whose spool began with these lines, and the batches accepted so far. -/
structure Ledger (s : Sender) (initial : List Bytes) (accepted : List (List (Bytes × Nat))) :
    Prop where
  sound : s.Sound
  single : ∀ x ∈ s.located, x.record.SingleLine
  account : ∃ settled taken, accepted = settled ++ taken ∧
    Accounted s (initial ++ s.spooledLines) settled taken

theorem start_ledger {spool : Spool} {initial : List Bytes} (begun : spool.Keeps initial) :
    Ledger (start spool) initial [] where
  sound := start_sound spool
  single := by simp [located, held, start, Drain.held, Stop.held]
  account := by
    have none_ : initial ++ (start spool).spooledLines = initial := List.append_nil initial
    have all : remaining initial.zipIdx [] = initial.zipIdx := by simp [remaining]
    refine ⟨[], [], rfl, ?_⟩
    rw [none_]
    exact {
      once := List.nodup_nil
      known := by simp
      batches := rfl
      kept := by
        rw [all, List.zipIdx_map_fst]
        exact begun
      counted := rfl
      underway := by simp [start]
      idle := fun _ => rfl }

theorem move_ledger {s s' : Sender} {e : Event} {initial : List Bytes}
    {accepted : List (List (Bytes × Nat))} (move : Move s e s')
    (single : ∀ x ∈ e.submissions s.submitted, x.record.SingleLine)
    (inv : Ledger s initial accepted) :
    ∃ accepted', accepted <+: accepted' ∧ Ledger s' initial accepted' := by
  obtain ⟨settled, taken, rfl, account⟩ := inv.account
  obtain ⟨settled', taken', grows, account'⟩ := move_accounted move inv.single account
  refine ⟨settled' ++ taken', grows, move_sound move inv.sound, fun x hx => ?_,
    settled', taken', rfl, account'⟩
  have before := List.count_pos_iff.mpr hx
  rw [move_located move inv.sound.numbered] at before
  by_cases old : x ∈ s.located
  · exact inv.single x old
  · rw [List.count_eq_zero_of_not_mem old, Nat.zero_add] at before
    exact single x (List.count_pos_iff.mp before)

/-- Along a run the accepted batches grow, and the books are in order after every event. -/
theorem run_ledger {s s' : Sender} {events : List Event} {initial : List Bytes}
    {accepted : List (List (Bytes × Nat))} (h : s.run events = some s')
    (single : ∀ x ∈ submissions s.submitted events, x.record.SingleLine)
    (inv : Ledger s initial accepted) :
    ∃ history : Nat → List (List (Bytes × Nat)), accepted <+: history 0 ∧
      (∀ n, history n <+: history (n + 1)) ∧
      ∀ n, ∃ u, s.run (events.take n) = some u ∧ Ledger u initial (history n) := by
  induction events generalizing s accepted with
  | nil =>
    exact ⟨fun _ => accepted, List.prefix_rfl, fun _ => List.prefix_rfl,
      fun n => ⟨s, by simp [run], inv⟩⟩
  | cons e rest ih =>
    obtain ⟨mid, hstep, hrest⟩ := Option.bind_eq_some_iff.mp h
    have move := step_move hstep
    obtain ⟨accepted₁, grows, ledger⟩ :=
      move_ledger move (fun x hx => single x (List.mem_append_left _ hx)) inv
    obtain ⟨history, first, growing, after⟩ := ih hrest
      (fun x hx => single x (List.mem_append_right _ (move_submitted move ▸ hx))) ledger
    -- The history of the other events, and before it what was accepted before this one.
    refine ⟨fun n => n.casesOn accepted history, List.prefix_rfl, fun n => ?_, fun n => ?_⟩
    · cases n with
      | zero => exact grows.trans first
      | succ n => exact growing n
    · cases n with
      | zero => exact ⟨s, rfl, inv⟩
      | succ n =>
        obtain ⟨u, hrun, ledger'⟩ := after n
        exact ⟨u, by simp [run, hstep, hrun], ledger'⟩

/-- The lines that the spool of a sender ever had are numbered in the order in which they came:
first those that were there at the start and then the records that were spooled. The lines of the
file are `waiting`, and those of the accepted batches have left it when the replay that offered them
is over. -/
structure InBalance (s : Sender) (initial : List Bytes) (accepted : List (List (Bytes × Nat)))
    (waiting : List Bytes) : Prop where
  batches : s.acceptedBatches = accepted.map fun batch => batch.map (·.1)
  known : ∀ r ∈ accepted.flatten, r ∈ (initial ++ s.spooledLines).zipIdx
  once : accepted.flatten.Nodup
  file : s.spool.Keeps waiting
  left : ((remaining (initial ++ s.spooledLines).zipIdx accepted).map (·.1)).Sublist waiting
  settled : s.replaying = none →
    waiting = (remaining (initial ++ s.spooledLines).zipIdx accepted).map (·.1)
  pending : s.spool.hindrance s.spool.names.lookup = none → s.spool.pending = .ok waiting.length
  balance : s.uncounted = [] → .spooled ∉ s.pendingFates →
    waiting.length + s.counters.replayed = initial.length + s.counters.spooled

theorem Ledger.inBalance {s : Sender} {initial : List Bytes}
    {accepted : List (List (Bytes × Nat))} (inv : Ledger s initial accepted) :
    ∃ waiting, InBalance s initial accepted waiting := by
  obtain ⟨settled, taken, rfl, account⟩ := inv.account
  refine ⟨(remaining (initial ++ s.spooledLines).zipIdx settled).map (·.1), ?_⟩
  exact {
    batches := account.batches
    known := account.known
    once := account.once
    file := account.kept
    left := by
      rw [Spool.remaining_append]
      exact List.filter_sublist.map _
    settled := fun free => by rw [account.idle free, List.append_nil]
    pending := account.kept.pending
    balance := fun none_ counted => by
      have once := account.once
      have known := account.known
      simp only [List.flatten_append] at once known
      have lines := Spool.length_remaining (Spool.zipIdx_nodup _) (List.nodup_append.mp once).1
        fun r hr => known r (List.mem_append_left _ hr)
      have replayed := account.counted
      have spooled := inv.sound.counted .spooled
      rw [← length_spooledLines, List.count_eq_zero_of_not_mem counted] at spooled
      simp only [none_, List.map_nil, List.sum_nil] at replayed
      simp only [List.length_zipIdx, List.length_append, Counters.total] at lines spooled
      simp only [List.length_map]
      omega }

/-- A sender starts on a spool with these lines, and its records are single lines. However its calls,
its drain and its replays interleave, and whichever of them fail, after every event each line that
the spool ever had is in at most one accepted batch, those in none are in the file, and the counters
agree with the file whenever nothing is left to be counted. By `run_replay` the replay that is made
here step by step is `Spool.replay`. -/
theorem run_balances_spool {spool : Spool} {initial : List Bytes} (begun : spool.Keeps initial)
    {events : List Event} {s : Sender} (h : (start spool).run events = some s)
    (single : ∀ x ∈ submissions 0 events, x.record.SingleLine) :
    ∃ history : Nat → List (List (Bytes × Nat)), (∀ n, history n <+: history (n + 1)) ∧
      ∀ n, ∃ u waiting, (start spool).run (events.take n) = some u ∧
        InBalance u initial (history n) waiting := by
  obtain ⟨history, _, growing, after⟩ := run_ledger h single (start_ledger begun)
  refine ⟨history, growing, fun n => ?_⟩
  obtain ⟨u, run, ledger⟩ := after n
  obtain ⟨waiting, balance⟩ := ledger.inBalance
  exact ⟨u, waiting, run, balance⟩

/-- Two lines that are in the spool at the start. -/
def twoLeft : List Bytes := [Utf8.encode "x v=1i", Utf8.encode "y v=2i"]

/-- A caller replays while the drain waits to append a record, the replayer replays what is left,
and with the place of the spool lost a second record is dropped while the sender stops. -/
def sharedSpool : List Event :=
  [.submit ⟨"a v=1i"⟩, .submitStep 0, .submitStep 0, .drainStep, .drainStep, .drainStep,
    .beginReplay .caller, .lineAnswer .refused, .offerBatch true, .replayerWakes,
    .offerBatch false, .settleReplay, .drainStep, .beginReplay .replayer, .offerBatch true,
    .countReplay .caller 1, .drainStep, .offerBatch false, .settleReplay, .reach false,
    .submit ⟨"b v=2i"⟩, .submitStep 1, .submitStep 1, .drainStep, .stopStep, .stopStep, .drainStep,
    .drainStep, .countReplay .replayer 1, .drainStep]

theorem sharedSpool_balanced :
    ∃ spool s, spool.Keeps twoLeft ∧ (start spool).run sharedSpool = some s ∧
      (∀ x ∈ submissions 0 sharedSpool, x.record.SingleLine) ∧
      ∃ history : Nat → List (List (Bytes × Nat)), (∀ n, history n <+: history (n + 1)) ∧
        ∀ n, ∃ u waiting, (start spool).run (sharedSpool.take n) = some u ∧
          InBalance u twoLeft (history n) waiting := by
  have begun : (Spool.ofFiles { spool := .file (Spool.ofLines twoLeft) } 1).Keeps twoLeft := by
    refine ⟨.inl rfl, fun l hl => ?_⟩
    simp only [twoLeft, List.mem_cons, List.not_mem_nil, or_false] at hl
    rcases hl with rfl | rfl <;> exact ⟨by decide +kernel, by decide +kernel, by decide +kernel⟩
  have single : ∀ x ∈ submissions 0 sharedSpool, x.record.SingleLine := by
    intro x hx
    have two : x = ⟨0, ⟨"a v=1i"⟩⟩ ∨ x = ⟨1, ⟨"b v=2i"⟩⟩ := by
      simpa [submissions, sharedSpool, Event.submissions] using hx
    rcases two with rfl | rfl <;> exact Record.singleLine_iff.mpr (by decide)
  obtain ⟨s, runs⟩ := Option.isSome_iff_exists.mp (show
    ((start (.ofFiles { spool := .file (Spool.ofLines twoLeft) } 1)).run sharedSpool).isSome by
      decide +kernel)
  exact ⟨_, s, begun, runs, single, run_balances_spool begun runs single⟩

end TelemetryRelay.Sender
