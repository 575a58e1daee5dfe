import TelemetryRelay.Proofs.Sender.Order

namespace TelemetryRelay.Sender

/-- The records that calls append to the spool themselves come after all that entered the queue. -/
structure Behind (s : Sender) : Prop where
  below : ∀ x ∈ s.direct, x.number < s.submitted
  later : ∀ x ∈ s.direct, ∀ y ∈ s.entered, y.number < x.number

/-- Calls that submit one after another when the sender has stopped append in that order. -/
structure Ascending (s : Sender) : Prop where
  direct : s.direct.Pairwise (·.number < ·.number)
  alone : s.stop = .done → s.submits.length ≤ 1
  next : s.stop = .done → ∀ call ∈ s.submits, call.stage = .entered ∨ call.stage = .spooling →
    ∀ x ∈ s.direct, x.number < call.submission.number

/-- What the order of a sender's work rests on. -/
structure InLine (s : Sender) : Prop where
  sound : s.Sound
  ranked : s.Ranked
  fifo : ∃ skipped, s.Fifo skipped
  behind : s.Behind

/-- Whether each call that submits a record to a stopped sender begins when no other is under way. -/
def oneByOne (s : Sender) : List Event → Bool
  | [] => true
  | e :: rest =>
    ((e.submissions s.submitted).isEmpty || s.stop != .done || s.submits.isEmpty) &&
      (s.step e).all fun s => oneByOne s rest

theorem start_inLine (spool : Spool) : (start spool).InLine where
  sound := start_sound spool
  ranked := start_ranked spool
  fifo := ⟨[], start_fifo spool⟩
  behind := ⟨by simp [direct, kept, noted, start], by simp [direct, kept, noted, start]⟩

theorem start_ascending (spool : Spool) : (start spool).Ascending where
  direct := by simp [direct, kept, noted, start]
  alone := by simp [start]
  next := by simp [start]

section Steps
variable {s s' : Sender} {e : Event}

theorem InLine.direct_eq_nil (inv : s.InLine) (running : s.stop ≠ .done) : s.direct = [] := by
  obtain ⟨_, fifo⟩ := inv.fifo
  exact fifo.inside.resolve_left running

theorem move_behind (move : Move s e s') (inv : s.InLine) {skipped : List Submission}
    (fifo : s'.Fifo skipped) : s'.Behind := by
  have empty (running : s'.stop ≠ .done) : s'.Behind := by
    have none_ := fifo.inside.resolve_left running
    exact ⟨by simp [none_], by simp [none_]⟩
  cases move with
  | submit => exact ⟨fun x hx => Nat.lt_succ_of_lt (inv.behind.below x hx), inv.behind.later⟩
  | @enqueue call mem stage =>
    exact empty (inv.sound.orderly.unfinished mem stage)
  | @submitSpool call fate spool mem stage appends =>
    have done := inv.ranked.spooling call mem stage
    have same : noted Deed.queued? (fate.deed call.submission :: s.journal) = s.entered := by
      simp [entered]
    have more := inv.ranked.direct_submitSpool mem stage appends
    constructor
    · intro x hx
      rcases List.mem_append.mp (more ▸ hx) with old | new
      · exact inv.behind.below x old
      · rw [List.mem_singleton.mp new]
        exact inv.sound.numbered.below call mem
    · intro x hx y hy
      have hy : y ∈ s.entered := same ▸ hy
      rcases List.mem_append.mp (more ▸ hx) with old | new
      · exact inv.behind.later x old y hy
      · rw [List.mem_singleton.mp new]
        exact inv.ranked.later done call mem y hy
  | @drainSpool sub fate spool drain =>
    exact empty (inv.sound.orderly.waits_for_drain (by simp [drain, Drain.isOver])).2
  | sweepSpool => exact empty (by simp)
  | _ => exact ⟨inv.behind.below, inv.behind.later⟩

theorem move_inLine (move : Move s e s') (inv : s.InLine) : s'.InLine := by
  obtain ⟨skipped, fifo⟩ := inv.fifo
  obtain ⟨skipped', fifo'⟩ := move_fifo move inv.sound.orderly inv.ranked fifo
  exact {
    sound := move_sound move inv.sound
    ranked := move_ranked move inv.sound.orderly inv.sound.numbered inv.ranked
    fifo := ⟨skipped', fifo'⟩
    behind := move_behind move inv fifo' }

/-- Before the sender has stopped no call appends a record. -/
theorem InLine.ascending (inv : s.InLine) (running : s.stop ≠ .done) : s.Ascending where
  direct := by simp [inv.direct_eq_nil running]
  alone done := absurd done running
  next done := absurd done running

theorem move_ascending (move : Move s e s') (inv : s.InLine)
    (alone : e.submissions s.submitted ≠ [] → s.stop = .done → s.submits = [])
    (asc : s.Ascending) : s'.Ascending := by
  have inv' := move_inLine move inv
  cases move with
  | @submit record =>
    have alone := alone (by simp [Event.submissions])
    refine ⟨asc.direct, fun done => by simp [alone done], fun done call mem _ x hx => ?_⟩
    have new : call = { submission := ⟨s.submitted, record⟩ } := by
      simpa [alone done] using mem
    rw [new]
    exact inv.behind.below x hx
  | @submitLook call mem stage =>
    refine ⟨asc.direct, fun done => ?_, fun done c hc waiting x hx => ?_⟩
    · simpa [withStage] using asc.alone done
    · obtain ⟨before, old, same, rfl | ⟨rfl, _⟩⟩ := mem_withStage hc
      · exact asc.next done c old waiting x hx
      · exact same ▸ asc.next done before old (.inl stage) x hx
  | @enqueue call mem stage =>
    exact inv'.ascending (inv.sound.orderly.unfinished mem stage)
  | @submitSpool call fate spool mem stage appends =>
    have done := inv.ranked.spooling call mem stage
    have more := inv.ranked.direct_submitSpool mem stage appends
    constructor
    · rw [more]
      refine List.pairwise_append.mpr ⟨asc.direct, List.pairwise_singleton _ _, ?_⟩
      intro x hx y hy
      rw [List.mem_singleton.mp hy]
      exact asc.next done call mem (.inr stage) x hx
    · intro _
      simpa [withStage] using asc.alone done
    · -- The only call under way has appended its record.
      intro _ c hc waiting
      have one : s.submits = [call] := by
        obtain ⟨only, eq⟩ := List.length_eq_one_iff.mp
          (Nat.le_antisymm (asc.alone done) (List.length_pos_of_mem mem))
        rw [eq] at mem
        rw [eq, List.mem_singleton.mp mem]
      simp only [withStage, one, List.map_cons, ↓reduceIte, List.map_nil] at hc
      simp [List.mem_singleton.mp hc] at waiting
  | submitCount =>
    exact ⟨asc.direct, fun done => Nat.le_trans List.erase_sublist.length_le (asc.alone done),
      fun done c hc => asc.next done c (List.mem_of_mem_erase hc)⟩
  | @drainSpool sub fate spool drain =>
    exact inv'.ascending (inv.sound.orderly.waits_for_drain (by simp [drain, Drain.isOver])).2
  | clear => exact inv'.ascending (by simp)
  | close => exact inv'.ascending (by simp)
  | join => exact inv'.ascending (by simp)
  | sweepEnds stop =>
    have none_ := inv.sound.orderly.no_calls stop (by simp) (by simp)
    exact ⟨asc.direct, fun _ => by simp [none_], fun _ => by simp [none_]⟩
  | sweep => exact inv'.ascending (by simp)
  | sweepSpool => exact inv'.ascending (by simp)
  | sweepCount => exact inv'.ascending (by simp)
  | _ => exact ⟨asc.direct, asc.alone, asc.next⟩

end Steps

theorem run_ascending {s s' : Sender} {events : List Event} (h : s.run events = some s')
    (one : s.oneByOne events = true) (inv : s.InLine) (asc : s.Ascending) : s'.Ascending := by
  induction events generalizing s with
  | nil =>
    cases Option.some.inj h
    exact asc
  | cons e rest ih =>
    obtain ⟨mid, hstep, hrest⟩ := Option.bind_eq_some_iff.mp h
    simp only [oneByOne, hstep, Option.all_some, Bool.and_eq_true, Bool.or_eq_true,
      List.isEmpty_iff, bne_iff_ne] at one
    obtain ⟨now, later⟩ := one
    have move := step_move hstep
    refine ih hrest later (move_inLine move inv) (move_ascending move inv ?_ asc)
    intro brings done
    exact (now.resolve_left fun h => h.elim brings fun running => running done)

theorem mem_kept {s : Sender} {x : Submission} :
    x ∈ s.kept ↔ .spooled x ∈ s.journal ∨ .dropped x ∈ s.journal := by
  simp only [kept, noted, List.mem_reverse, List.mem_filterMap]
  constructor
  · rintro ⟨d, mem, eq⟩
    cases d <;> simp [Deed.kept?] at eq <;> simp [← eq, mem]
  · rintro (mem | mem) <;> exact ⟨_, mem, rfl⟩

theorem mem_attempts {s : Sender} {x : Submission} :
    x ∈ s.attempts ↔ .attempted x ∈ s.journal := by
  simp only [attempts, noted, List.mem_reverse, List.mem_filterMap]
  constructor
  · rintro ⟨d, mem, eq⟩
    cases d <;> simp [Deed.attempted?] at eq
    rwa [← eq]
  · exact fun mem => ⟨_, mem, rfl⟩

/-- What left the queue without being sent is in the spool or dropped when stopping is over. -/
theorem Fifo.kept_of_stopped {s : Sender} {skipped : List Submission} {x : Submission}
    (inv : s.Fifo skipped) (orderly : s.Orderly) (stop : s.stop = .done) (mem : x ∈ skipped) :
    x ∈ s.kept := by
  obtain ⟨_, unsent, _⟩ := orderly.drain_over (by simp [stop, Stop.hasJoined])
  rcases inv.served x mem with kept | drain | held
  · exact kept
  · simp [unsent] at drain
  · simp [stop, Stop.held] at held

/-- When stopping is over only the calls under way have a fate to count. -/
theorem fates_of_stopped {s : Sender} (sound : s.Sound) (stop : s.stop = .done) (fate : Fate) :
    s.counters.total fate + (s.submits.flatMap SubmitCall.fates).count fate =
      (s.journal.filterMap Deed.fate?).count fate := by
  have counted := sound.counted fate
  have ended := sound.orderly.ended (by simp [stop, Stop.hasJoined])
  have none_ : s.drain.fates = [] := by
    cases drain : s.drain <;> simp [drain, Drain.isOver] at ended <;> rfl
  simpa [pendingFates, none_, stop, Stop.fates] using counted

/-- The records that entered the queue of a sender are sent in order up to some record and never
again after it. Those that are appended to the spool, whether that works or not, are appended in the
order in which they entered the queue, and after them, in the order of submission, those of a stopped
sender that are submitted one by one. When stopping is over no record of the queue is left. That a
record is noted as appended means that its line is at the end of the file: see `step_spooled`. -/
theorem run_keeps_order {spool : Spool} {events : List Event} {s : Sender}
    (h : (start spool).run events = some s) :
    s.entered.Nodup ∧
    (s.kept = s.swept ++ s.direct ∧ s.swept.Sublist s.entered) ∧
    (∀ x ∈ s.direct, ∀ y ∈ s.entered, y.number < x.number) ∧
    ((start spool).oneByOne events = true → s.direct.Pairwise (·.number < ·.number)) ∧
    ∃ k, s.attempts = s.entered.take k ∧
      (s.stop = .done → ∀ x ∈ s.entered.drop k, .attempted x ∉ s.journal ∧
        (.spooled x ∈ s.journal ∨ .dropped x ∈ s.journal)) ∧
      (s.stop = .done → ∀ fate,
        s.counters.total fate + (s.submits.flatMap SubmitCall.fates).count fate =
          (s.journal.filterMap Deed.fate?).count fate) := by
  have inv : s.InLine := run_keeps h move_inLine (start_inLine spool)
  obtain ⟨skipped, fifo⟩ := inv.fifo
  have entered := fifo.entered
  have nodup : s.entered.Nodup := .of_map _ inv.ranked.nodup
  have taken : s.swept.Sublist s.entered := by
    rw [entered]
    exact ((List.sublist_append_left _ _).trans fifo.order).trans (List.sublist_append_left _ _)
  refine ⟨nodup, ⟨fifo.split, taken⟩, inv.behind.later, fun one => ?_, s.attempts.length, ?_,
    fun stop x hx => ?_, fun stop => fates_of_stopped inv.sound stop⟩
  · exact (run_ascending h one (start_inLine spool) (start_ascending spool)).direct
  · simp [entered]
  · have rest : s.entered.drop s.attempts.length = skipped := by
      simp [entered, inv.sound.orderly.swept stop]
    rw [rest] at hx
    refine ⟨fun sent => ?_, mem_kept.mp (fifo.kept_of_stopped inv.sound.orderly stop hx)⟩
    rw [entered, List.append_assoc] at nodup
    exact (List.nodup_append.mp nodup).2.2 x (mem_attempts.mpr sent) x
      (List.mem_append_left _ hx) rfl

/-- The first of two calls that race is the second to enter the queue. One record is refused and the
drain breaks down with the next one; of the two that stopping finds the second one cannot be
appended, and two more come when it is over. -/
def raceAndSweep : List Event :=
  [.submit ⟨"a v=1i"⟩, .submit ⟨"b v=2i"⟩, .submitStep 0, .submitStep 1, .submitStep 1,
    .submitStep 0, .submit ⟨"c v=3i"⟩, .submitStep 2, .submitStep 2, .submit ⟨"d v=4i"⟩,
    .submitStep 3, .submitStep 3, .drainStep, .drainStep, .drainStep, .lineAnswer .refused,
    .drainStep, .drainStep, .drainStep, .drainStep, .drainStep, .lineAnswer .broken, .stopStep,
    .stopStep, .replayerWakes, .stopStep, .stopStep, .stopStep, .stopStep, .stopStep,
    .reach false, .stopStep, .stopStep, .stopStep, .reach true, .submit ⟨"e v=5i"⟩, .submitStep 4,
    .submitStep 4, .submitStep 4, .submit ⟨"f v=6i"⟩, .submitStep 5, .submitStep 5]

theorem raceAndSweep_keeps_order :
    ∃ s k, (start {}).run raceAndSweep = some s ∧ s.stop = .done ∧
      s.entered.map (·.number) = [1, 0, 2, 3] ∧ s.attempts.map (·.number) = [1, 0] ∧
      s.kept.map (·.number) = [1, 2, 3, 4, 5] ∧ s.attempts = s.entered.take k ∧
      s.direct.Pairwise (·.number < ·.number) ∧
      ∀ x ∈ s.entered.drop k, .attempted x ∉ s.journal ∧
        (.spooled x ∈ s.journal ∨ .dropped x ∈ s.journal) := by
  obtain ⟨_, _, _, ascending, k, attempts, rest, _⟩ := @run_keeps_order {} raceAndSweep _ rfl
  exact ⟨_, k, rfl, rfl, rfl, rfl, rfl, attempts, ascending rfl, rest rfl⟩

end TelemetryRelay.Sender
