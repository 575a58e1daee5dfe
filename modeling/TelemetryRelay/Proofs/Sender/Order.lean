import TelemetryRelay.Proofs.Sender.Routing

namespace TelemetryRelay.Sender

def Deed.queued? : Deed → Option Submission
  | .queued sub => some sub
  | _ => none

def Deed.attempted? : Deed → Option Submission
  | .attempted sub => some sub
  | _ => none

/-- The record that was appended to the spool, whether that worked or not. -/
def Deed.kept? : Deed → Option Submission
  | .spooled sub | .dropped sub => some sub
  | _ => none

/-- The records that entered the queue, in order. -/
def entered (s : Sender) : List Submission :=
  noted Deed.queued? s.journal

/-- The records whose sending began, in order. -/
def attempts (s : Sender) : List Submission :=
  noted Deed.attempted? s.journal

/-- The records that were appended to the spool, in order, whether that worked or not. -/
def kept (s : Sender) : List Submission :=
  noted Deed.kept? s.journal

/-- Those of them that came out of the queue. -/
def swept (s : Sender) : List Submission :=
  s.kept.filter (· ∈ s.entered)

/-- Those of them that never were in the queue. -/
def direct (s : Sender) : List Submission :=
  s.kept.filter (· ∉ s.entered)

/-- The record that the drain has taken and neither sent nor given up. -/
def Drain.fresh : Drain → List Submission
  | .taken sub | .clear sub => [sub]
  | _ => []

/-- The record that the drain has and that waits for no answer. -/
def Drain.unsent : Drain → List Submission
  | .taken sub | .clear sub | .spooling sub => [sub]
  | _ => []

/-- The numbers of the records that entered the queue against those of the calls under way. -/
structure Ranked (s : Sender) : Prop where
  nodup : (s.entered.map (·.number)).Nodup
  below : ∀ y ∈ s.entered, y.number < s.submitted
  apart : ∀ call ∈ s.submits, ∀ y ∈ s.entered, y.number ≠ call.submission.number
  later : s.stop = .done → ∀ call ∈ s.submits, ∀ y ∈ s.entered,
    y.number < call.submission.number
  /-- A call appends its record itself only when the sender has stopped. -/
  spooling : ∀ call ∈ s.submits, call.stage = .spooling → s.stop = .done

/-- Of the records that left the queue the first ones were sent and the others, `skipped`, were not;
those in the hands of the drain and of stopping come after all that were appended. -/
structure Fifo (s : Sender) (skipped : List Submission) : Prop where
  entered : s.entered = s.attempts ++ skipped ++ s.queue.items
  fresh : s.running = true ∨ (∃ sub, s.drain = .clear sub) → skipped = s.drain.fresh
  served : ∀ x ∈ skipped, x ∈ s.kept ∨ x ∈ s.drain.unsent ∨ x ∈ s.stop.held
  order : (s.swept ++ (s.drain.held ++ s.stop.held)).Sublist (s.attempts ++ skipped)
  split : s.kept = s.swept ++ s.direct
  inside : s.stop = .done ∨ s.direct = []

theorem start_ranked (spool : Spool) : (start spool).Ranked where
  nodup := List.nodup_nil
  below := by simp [entered, noted, start]
  apart := by simp [start]
  later := by simp [start]
  spooling := by simp [start]

theorem start_fifo (spool : Spool) : (start spool).Fifo [] :=
  ⟨rfl, fun _ => rfl, by simp, List.Sublist.refl _, rfl, .inr rfl⟩

@[simp] theorem queued?_deed (fate : Fate) (x : Submission) : (fate.deed x).queued? = none := by
  cases fate <;> rfl

@[simp] theorem attempted?_deed (fate : Fate) (x : Submission) :
    (fate.deed x).attempted? = none := by
  cases fate <;> rfl

/-- A sender that stops and has not stopped has no call under way. -/
theorem Orderly.no_calls {s : Sender} (orderly : s.Orderly) {stage : Stop} (stop : s.stop = stage)
    (begun : stage ≠ .no) (unfinished : stage ≠ .done) : s.submits = [] :=
  (orderly.quiet.resolve_left (stop ▸ begun)).resolve_left (stop ▸ unfinished)

theorem Orderly.unfinished {s : Sender} (orderly : s.Orderly) {call : SubmitCall}
    (mem : call ∈ s.submits) (stage : call.stage = .queueing) : s.stop ≠ .done := fun done =>
  orderly.direct.resolve_left (by simp [done]) call mem stage

section Ranks
variable {s s' : Sender}

theorem Ranked.of_same (inv : s.Ranked) (entered : s'.entered = s.entered)
    (submitted : s'.submitted = s.submitted) (submits : s'.submits = s.submits)
    (stop : s'.stop = s.stop) : s'.Ranked := by
  constructor
  · exact entered ▸ inv.nodup
  · exact entered ▸ submitted ▸ inv.below
  · exact entered ▸ submits ▸ inv.apart
  · exact entered ▸ submits ▸ stop ▸ inv.later
  · exact submits ▸ stop ▸ inv.spooling

theorem Ranked.of_no_calls (inv : s.Ranked) (entered : s'.entered = s.entered)
    (submitted : s'.submitted = s.submitted) (submits : s'.submits = []) : s'.Ranked := by
  constructor
  · exact entered ▸ inv.nodup
  · exact entered ▸ submitted ▸ inv.below
  all_goals simp [submits]

/-- A call that appends its record itself never put it into the queue. -/
theorem Ranked.not_entered (inv : s.Ranked) {call : SubmitCall} (mem : call ∈ s.submits)
    (stage : call.stage = .spooling) : call.submission ∉ s.entered := fun inside =>
  Nat.lt_irrefl _ (inv.later (inv.spooling call mem stage) call mem _ inside)

theorem Ranked.submit (inv : s.Ranked) {record : Record} :
    Ranked { s with
      submitted := s.submitted + 1
      submits := s.submits ++ [{ submission := ⟨s.submitted, record⟩ }] } := by
  refine ⟨inv.nodup, fun y hy => Nat.lt_succ_of_lt (inv.below y hy), ?_, ?_, ?_⟩
  · intro call mem y hy
    rcases List.mem_append.mp mem with old | new
    · exact inv.apart call old y hy
    · rw [List.mem_singleton.mp new]
      exact Nat.ne_of_lt (inv.below y hy)
  · intro done call mem y hy
    rcases List.mem_append.mp mem with old | new
    · exact inv.later done call old y hy
    · rw [List.mem_singleton.mp new]
      exact inv.below y hy
  · intro call mem stage
    rcases List.mem_append.mp mem with old | new
    · exact inv.spooling call old stage
    · simp [List.mem_singleton.mp new] at stage

theorem mem_withStage {call c : SubmitCall} {stage : SubmitStage}
    (h : c ∈ (s.withStage call stage).submits) :
    ∃ before ∈ s.submits, c.submission = before.submission ∧
      (c = before ∨ before = call ∧ c.stage = stage) := by
  obtain ⟨before, mem, rfl⟩ := List.mem_map.mp h
  refine ⟨before, mem, ?_⟩
  by_cases same : before = call
  · simp [same]
  · simp [same]

theorem Ranked.withStage (inv : s.Ranked) {call : SubmitCall} {stage : SubmitStage}
    (direct : stage = .spooling → s.stop = .done) : (s.withStage call stage).Ranked := by
  refine ⟨inv.nodup, inv.below, ?_, ?_, ?_⟩
  · intro c hc y hy
    obtain ⟨before, mem, same, _⟩ := mem_withStage hc
    exact same ▸ inv.apart before mem y hy
  · intro done c hc y hy
    obtain ⟨before, mem, same, _⟩ := mem_withStage hc
    exact same ▸ inv.later done before mem y hy
  · intro c hc spooling
    obtain ⟨before, mem, _, rfl | ⟨_, rfl⟩⟩ := mem_withStage hc
    · exact inv.spooling c mem spooling
    · exact direct spooling

theorem Ranked.erase (inv : s.Ranked) (call : SubmitCall) :
    Ranked { s with submits := s.submits.erase call } where
  nodup := inv.nodup
  below := inv.below
  apart c hc := inv.apart c (List.mem_of_mem_erase hc)
  later done c hc := inv.later done c (List.mem_of_mem_erase hc)
  spooling c hc := inv.spooling c (List.mem_of_mem_erase hc)

/-- The record of a call that is not under way any more can enter the queue as the last one, as long
as the sender has not stopped. -/
theorem Ranked.enqueue (inv : s.Ranked) (running : s.stop ≠ .done) {x : Submission}
    (below : x.number < s.submitted) (new : ∀ y ∈ s.entered, y.number ≠ x.number)
    (apart : ∀ call ∈ s.submits, x.number ≠ call.submission.number)
    (entered : s'.entered = s.entered ++ [x]) (submitted : s'.submitted = s.submitted)
    (submits : s'.submits = s.submits) (stop : s'.stop = s.stop) : s'.Ranked := by
  constructor
  · rw [entered, List.map_append]
    refine List.nodup_append.mpr ⟨inv.nodup, by simp, ?_⟩
    intro n hn m hm
    obtain ⟨y, hy, rfl⟩ := List.mem_map.mp hn
    rw [List.mem_singleton.mp hm]
    exact new y hy
  · intro y hy
    rw [submitted]
    rcases List.mem_append.mp (entered ▸ hy) with old | last
    · exact inv.below y old
    · exact List.mem_singleton.mp last ▸ below
  · intro call mem y hy
    rcases List.mem_append.mp (entered ▸ hy) with old | last
    · exact inv.apart call (submits ▸ mem) y old
    · exact List.mem_singleton.mp last ▸ apart call (submits ▸ mem)
  · intro done
    exact absurd (stop ▸ done) running
  · exact submits ▸ stop ▸ inv.spooling

theorem move_ranked {e : Event} (move : Move s e s') (orderly : s.Orderly) (num : s.Numbered)
    (inv : s.Ranked) : s'.Ranked := by
  cases move with
  | submit => exact inv.submit
  | @submitLook call mem =>
    refine inv.withStage fun looked => ?_
    -- The call has seen that the sender does not run.
    have halted : s.running ≠ true := fun runs => by simp [runs] at looked
    exact (admits_of_mem orderly mem).resolve_left fun no => halted (orderly.running.mpr no)
  | @enqueue call mem stage =>
    refine (inv.erase call).enqueue (orderly.unfinished mem stage) (num.below call mem) (inv.apart call mem) ?_
      (by simp [entered, Deed.queued?]) rfl rfl rfl
    intro c hc same
    obtain rfl := List.inj_on_of_nodup_map num.nodup mem (List.mem_of_mem_erase hc) same
    exact (List.Nodup.of_map _ num.nodup).not_mem_erase hc
  | submitSpool =>
    refine Ranked.withStage ?_ (by simp)
    exact inv.of_same (by simp [entered]) rfl rfl rfl
  | submitCount =>
    exact (inv.erase _).of_same rfl rfl rfl rfl
  | drainSpool => exact inv.of_same (by simp [entered]) rfl rfl rfl
  | clear _ unused => exact inv.of_no_calls rfl rfl (unused_submits unused)
  | close stop => exact inv.of_no_calls rfl rfl (orderly.no_calls stop nofun nofun)
  | join stop => exact inv.of_no_calls rfl rfl (orderly.no_calls stop nofun nofun)
  | sweepEnds stop => exact inv.of_no_calls rfl rfl (orderly.no_calls stop nofun nofun)
  | sweep stop => exact inv.of_no_calls rfl rfl (orderly.no_calls stop nofun nofun)
  | sweepSpool stop =>
    exact inv.of_no_calls (by simp [entered]) rfl (orderly.no_calls stop nofun nofun)
  | sweepCount stop => exact inv.of_no_calls rfl rfl (orderly.no_calls stop nofun nofun)
  | _ => exact inv.of_same rfl rfl rfl rfl

end Ranks

section Queue
variable {s s' : Sender} {x : Submission} {skipped : List Submission}

/-- A drain that goes on keeps stopping from taking records. -/
theorem Orderly.waits_for_drain (orderly : s.Orderly) (goes : s.drain.isOver = false) :
    s.stop.held = [] ∧ s.stop ≠ .done := by
  have ended := orderly.ended
  cases stop : s.stop <;> simp [stop, goes, Stop.hasJoined] at ended <;> simp [Stop.held]

/-- A drain that is over holds no record that could be sent or appended. -/
theorem Orderly.drain_over (orderly : s.Orderly) (joined : s.stop.hasJoined = true) :
    s.drain.held = [] ∧ s.drain.unsent = [] ∧ ∀ sub, s.drain ≠ .clear sub := by
  have ended := orderly.ended joined
  cases drain : s.drain <;> simp [drain, Drain.isOver] at ended <;>
    simp [Drain.held, Drain.unsent]

theorem swept_of_direct (none_ : s.direct = []) : s.swept = s.kept := by
  apply List.filter_eq_self.mpr
  intro x hx
  have inside := List.filter_eq_nil_iff.mp none_ x hx
  simpa using inside

theorem kept_lists (entered : s'.entered = s.entered) (kept : s'.kept = s.kept) :
    s'.swept = s.swept ∧ s'.direct = s.direct := by
  constructor
  · rw [swept, swept, entered, kept]
  · rw [Sender.direct, Sender.direct, entered, kept]

/-- A record of the queue that is appended to the spool is the last one so far. -/
theorem keep_entered (none_ : s.direct = []) (mem : x ∈ s.entered)
    (entered : s'.entered = s.entered) (kept : s'.kept = s.kept ++ [x]) :
    s'.swept = s.swept ++ [x] ∧ s'.direct = [] := by
  have inside : s'.direct = [] := by
    have old : s.kept.filter (· ∉ s.entered) = [] := none_
    rw [Sender.direct, entered, kept, List.filter_append, old]
    simp [mem]
  exact ⟨by rw [swept_of_direct inside, swept_of_direct none_, kept], inside⟩

/-- A record that never was in the queue and is appended to the spool leaves the others as they
are. -/
theorem keep_direct (new : x ∉ s.entered) (entered : s'.entered = s.entered)
    (kept : s'.kept = s.kept ++ [x]) : s'.swept = s.swept ∧ s'.direct = s.direct ++ [x] := by
  constructor
  · rw [swept, swept, entered, kept, List.filter_append]
    simp [new]
  · rw [Sender.direct, Sender.direct, entered, kept, List.filter_append]
    simp [new]

theorem Fifo.mem_entered (inv : s.Fifo skipped) (held : x ∈ s.drain.held ++ s.stop.held) :
    x ∈ s.entered := by
  rw [inv.entered]
  exact List.mem_append_left _ (inv.order.subset (List.mem_append_right _ held))

/-- What happens without a change of the records' lists, the queue and the drain keeps the order, if
stopping goes on without a record in its hands. -/
theorem Fifo.of_same (inv : s.Fifo skipped) (entered : s'.entered = s.entered)
    (attempts : s'.attempts = s.attempts) (kept : s'.kept = s.kept)
    (items : s'.queue.items = s.queue.items) (running : s'.running = true → s.running = true)
    (drain : s'.drain = s.drain) (held : s'.stop.held = s.stop.held)
    (stop : s.stop = .done → s'.stop = .done) : s'.Fifo skipped := by
  obtain ⟨swept, direct⟩ := kept_lists entered kept
  constructor
  · rw [entered, attempts, items]
    exact inv.entered
  · rw [drain]
    exact fun h => inv.fresh (h.imp_left running)
  · rw [kept, drain, held]
    exact inv.served
  · rw [swept, drain, held, attempts]
    exact inv.order
  · rw [kept, swept, direct]
    exact inv.split
  · rw [direct]
    exact inv.inside.imp_left stop

theorem Fifo.enqueue (inv : s.Fifo skipped) (running : s.stop ≠ .done)
    (entered : s'.entered = s.entered ++ [x]) (attempts : s'.attempts = s.attempts)
    (kept : s'.kept = s.kept) (items : s'.queue.items = s.queue.items ++ [x])
    (flag : s'.running = s.running) (drain : s'.drain = s.drain) (stop : s'.stop = s.stop) :
    s'.Fifo skipped := by
  have none_ := inv.inside.resolve_left running
  have direct : s'.direct = [] := by
    apply List.filter_eq_nil_iff.mpr
    intro y hy
    have inside := List.filter_eq_nil_iff.mp none_ y (kept ▸ hy)
    simp only [decide_eq_true_eq, not_not] at inside ⊢
    rw [entered]
    exact List.mem_append_left _ inside
  have swept : s'.swept = s.swept := by
    rw [swept_of_direct direct, swept_of_direct none_, kept]
  constructor
  · rw [entered, attempts, items, inv.entered, List.append_assoc _ _ [x]]
  · rw [flag, drain]
    exact inv.fresh
  · rw [kept, drain, stop]
    exact inv.served
  · rw [swept, drain, stop, attempts]
    exact inv.order
  · rw [direct, List.append_nil, swept_of_direct direct]
  · exact .inr direct

/-- The drain or stopping appends the record in its hands to the spool. -/
theorem Fifo.keep (inv : s.Fifo skipped) (running : s.stop ≠ .done)
    (held : s.drain.held ++ s.stop.held = [x]) (unsent : ∀ y ∈ s.drain.unsent, y = x)
    (entered : s'.entered = s.entered) (attempts : s'.attempts = s.attempts)
    (kept : s'.kept = s.kept ++ [x]) (items : s'.queue.items = s.queue.items)
    (free : s'.drain.held ++ s'.stop.held = [])
    (fresh : s'.running = true ∨ (∃ sub, s'.drain = .clear sub) → skipped = s'.drain.fresh) :
    s'.Fifo skipped := by
  have none_ := inv.inside.resolve_left running
  obtain ⟨swept, direct⟩ := keep_entered none_ (inv.mem_entered (by simp [held])) entered kept
  constructor
  · rw [entered, attempts, items]
    exact inv.entered
  · exact fresh
  · intro y hy
    rw [kept]
    rcases inv.served y hy with old | drain | stop
    · exact .inl (List.mem_append_left _ old)
    · exact .inl (List.mem_append_right _ (List.mem_singleton.mpr (unsent y drain)))
    · exact .inl (List.mem_append_right _ (held ▸ List.mem_append_right _ stop))
  · rw [swept, free, attempts, List.append_nil, ← held]
    exact inv.order
  · rw [direct, List.append_nil, swept_of_direct direct]
  · exact .inr direct

theorem Fifo.keepDirect (inv : s.Fifo skipped) (done : s.stop = .done) (new : x ∉ s.entered)
    (entered : s'.entered = s.entered) (attempts : s'.attempts = s.attempts)
    (kept : s'.kept = s.kept ++ [x]) (items : s'.queue.items = s.queue.items)
    (running : s'.running = s.running) (drain : s'.drain = s.drain) (stop : s'.stop = s.stop) :
    s'.Fifo skipped := by
  obtain ⟨swept, direct⟩ := keep_direct new entered kept
  constructor
  · rw [entered, attempts, items]
    exact inv.entered
  · rw [running, drain]
    exact inv.fresh
  · intro y hy
    rw [kept, drain, stop]
    exact (inv.served y hy).imp_left (List.mem_append_left _)
  · rw [swept, drain, stop, attempts]
    exact inv.order
  · rw [kept, swept, direct, inv.split, List.append_assoc]
  · exact .inl (stop ▸ done)

/-- The drain or stopping takes the next record, with none in its hands. -/
theorem Fifo.take (inv : s.Fifo skipped) {rest : List Submission}
    (items : s.queue.items = x :: rest) (free : s.drain.held ++ s.stop.held = [])
    (unsent : s.drain.unsent = []) (entered : s'.entered = s.entered)
    (attempts : s'.attempts = s.attempts) (kept : s'.kept = s.kept)
    (items' : s'.queue.items = rest) (held : s'.drain.held ++ s'.stop.held = [x])
    (served : x ∈ s'.drain.unsent ++ s'.stop.held)
    (fresh : s'.running = true ∨ (∃ sub, s'.drain = .clear sub) → skipped ++ [x] = s'.drain.fresh)
    (inside : s'.stop = .done ∨ s.direct = []) : s'.Fifo (skipped ++ [x]) := by
  obtain ⟨swept, direct⟩ := kept_lists entered kept
  constructor
  · rw [entered, attempts, items', inv.entered, items]
    simp
  · exact fresh
  · intro y hy
    rw [kept]
    rcases List.mem_append.mp hy with old | new
    · rcases inv.served y old with before | drain | stop
      · exact .inl before
      · simp [unsent] at drain
      · simp [(List.append_eq_nil_iff.mp free).2] at stop
    · exact .inr (List.mem_append.mp (List.mem_singleton.mp new ▸ served))
  · rw [swept, attempts, held, ← List.append_assoc]
    have order := inv.order
    rw [free, List.append_nil] at order
    exact order.append (List.Sublist.refl [x])
  · rw [kept, swept, direct]
    exact inv.split
  · rw [direct]
    exact inside

/-- The drain goes on with the record in its hands, or is done with it. -/
theorem Fifo.drain (inv : s.Fifo skipped) (entered : s'.entered = s.entered)
    (attempts : s'.attempts = s.attempts) (kept : s'.kept = s.kept)
    (items : s'.queue.items = s.queue.items) (stop : s'.stop = s.stop)
    (held : s'.drain.held.Sublist s.drain.held)
    (unsent : ∀ y ∈ s.drain.unsent, y ∈ s'.drain.unsent)
    (fresh : s'.running = true ∨ (∃ sub, s'.drain = .clear sub) → skipped = s'.drain.fresh) :
    s'.Fifo skipped := by
  obtain ⟨swept, direct⟩ := kept_lists entered kept
  constructor
  · rw [entered, attempts, items]
    exact inv.entered
  · exact fresh
  · intro y hy
    rw [kept, stop]
    exact (inv.served y hy).imp_right (.imp_left (unsent y))
  · rw [swept, stop, attempts]
    exact ((List.Sublist.refl _).append (held.append (List.Sublist.refl _))).trans inv.order
  · rw [kept, swept, direct]
    exact inv.split
  · rw [direct, stop]
    exact inv.inside

theorem Fifo.send (inv : s.Fifo skipped) (clear : s.drain = .clear x)
    (entered : s'.entered = s.entered) (attempts : s'.attempts = s.attempts ++ [x])
    (kept : s'.kept = s.kept) (items : s'.queue.items = s.queue.items)
    (drain : s'.drain = .sending x) (stop : s'.stop = s.stop) : s'.Fifo [] := by
  obtain rfl : skipped = [x] := by simpa [clear, Drain.fresh] using inv.fresh (.inr ⟨x, clear⟩)
  obtain ⟨swept, direct⟩ := kept_lists entered kept
  constructor
  · rw [entered, attempts, items, inv.entered, List.append_nil]
  · simp [drain, Drain.fresh]
  · simp
  · have order := inv.order
    rw [swept, attempts, drain, stop, List.append_nil]
    rwa [clear] at order
  · rw [kept, swept, direct]
    exact inv.split
  · rw [direct, stop]
    exact inv.inside

end Queue

theorem Appends.kept? {s : Sender} {x : Submission} {fate : Fate} {spool : Spool}
    (appends : s.Appends x fate spool) : (fate.deed x).kept? = some x := by
  obtain ⟨_, ⟨rfl, _⟩ | ⟨rfl, _⟩⟩ := appends <;> rfl

theorem Ranked.direct_submitSpool {s : Sender} (inv : s.Ranked) {call : SubmitCall} {fate : Fate}
    {spool : Spool} (mem : call ∈ s.submits) (stage : call.stage = .spooling)
    (appends : s.Appends call.submission fate spool) :
    ({ s with spool, journal := fate.deed call.submission :: s.journal }.withStage call
      (.counting fate)).direct = s.direct ++ [call.submission] := by
  refine (keep_direct (inv.not_entered mem stage) ?_ ?_).2
  · simp [Sender.withStage, entered]
  · simp [Sender.withStage, kept, appends.kept?]

/-- Every move keeps the order. -/
theorem move_fifo {s s' : Sender} {e : Event} {skipped : List Submission} (move : Move s e s')
    (orderly : s.Orderly) (ranked : s.Ranked) (inv : s.Fifo skipped) :
    ∃ skipped', s'.Fifo skipped' := by
  cases move with
  | @enqueue call mem stage =>
    exact ⟨skipped, inv.enqueue (orderly.unfinished mem stage) (by simp [entered, Deed.queued?])
      rfl rfl rfl rfl rfl rfl⟩
  | @submitSpool call fate spool mem stage appends =>
    exact ⟨skipped, inv.keepDirect (ranked.spooling call mem stage) (ranked.not_entered mem stage)
      (by simp [withStage, entered]) (by simp [withStage, attempts])
      (by simp [withStage, kept, appends.kept?]) rfl rfl rfl rfl⟩
  | @take sub rest drain items =>
    obtain ⟨free, running⟩ := orderly.waits_for_drain (by simp [drain, Drain.isOver])
    refine ⟨skipped ++ [sub], inv.take items (by simp [drain, Drain.held, free])
      (by simp [drain, Drain.unsent]) rfl rfl rfl rfl (by simp [Drain.held, free])
      (by simp [Drain.unsent]) ?_ (.inr (inv.inside.resolve_left running))⟩
    -- While the sender runs all that the drain took before has been sent.
    rintro (runs | ⟨_, other⟩)
    · have none_ : skipped = [] := by simpa [drain, Drain.fresh] using inv.fresh (.inl runs)
      simp [none_, Drain.fresh]
    · simp at other
  | finish drain =>
    refine ⟨skipped, inv.drain rfl rfl rfl rfl rfl (by simp [Drain.held])
      (by simp [drain, Drain.unsent]) ?_⟩
    simpa [drain, Drain.fresh] using inv.fresh
  | @drainLook sub drain =>
    refine ⟨skipped, inv.drain rfl rfl rfl rfl rfl ?_ ?_ ?_⟩
    · cases s.running <;> simp [drain, Drain.held]
    · cases s.running <;> simp [drain, Drain.unsent]
    · cases runs : s.running with
      | true => simpa [drain, Drain.fresh] using inv.fresh (.inl runs)
      | false => simp
  | send drain =>
    exact ⟨[], inv.send drain rfl (by simp [attempts, Deed.attempted?]) rfl rfl rfl rfl⟩
  | @drainSpool sub fate spool drain appends =>
    obtain ⟨free, running⟩ := orderly.waits_for_drain (by simp [drain, Drain.isOver])
    refine ⟨skipped, inv.keep (x := sub) running (by simp [drain, Drain.held, free])
      (by simp [drain, Drain.unsent]) (by simp [entered]) (by simp [attempts])
      (by simp [kept, appends.kept?]) rfl (by simp [Drain.held, free]) ?_⟩
    rintro (runs | ⟨_, other⟩)
    · simpa [drain, Drain.fresh] using inv.fresh (.inl runs)
    · simp at other
  | drainCount drain =>
    refine ⟨skipped, inv.drain rfl rfl rfl rfl rfl (by simp [Drain.held])
      (by simp [drain, Drain.unsent]) ?_⟩
    simpa [drain, Drain.fresh] using inv.fresh
  | accepted drain =>
    refine ⟨skipped, inv.drain rfl rfl rfl rfl rfl (by simp [Drain.held])
      (by simp [drain, Drain.unsent]) ?_⟩
    simpa [drain, Drain.fresh] using inv.fresh
  | refused drain =>
    refine ⟨skipped, inv.drain rfl rfl rfl rfl rfl (by simp [drain, Drain.held])
      (by simp [drain, Drain.unsent]) ?_⟩
    simpa [drain, Drain.fresh] using inv.fresh
  | broken drain =>
    refine ⟨skipped, inv.drain rfl rfl rfl rfl rfl (by simp [Drain.held])
      (by simp [drain, Drain.unsent]) ?_⟩
    simpa [drain, Drain.fresh] using inv.fresh
  | clear stop =>
    exact ⟨skipped, inv.of_same rfl rfl rfl rfl (by simp) rfl (by simp [stop, Stop.held])
      (by simp [stop])⟩
  | close stop =>
    exact ⟨skipped, inv.of_same rfl rfl rfl rfl id rfl (by simp [stop, Stop.held])
      (by simp [stop])⟩
  | join stop =>
    exact ⟨skipped, inv.of_same rfl rfl rfl rfl id rfl (by simp [stop, Stop.held])
      (by simp [stop])⟩
  | sweepEnds stop =>
    exact ⟨skipped, inv.of_same rfl rfl rfl rfl id rfl (by simp [stop, Stop.held])
      (by simp [stop])⟩
  | @sweep sub rest stop items =>
    obtain ⟨free, unsent, ended⟩ := orderly.drain_over (by simp [stop, Stop.hasJoined])
    refine ⟨skipped ++ [sub], inv.take items (by simp [stop, Stop.held, free]) unsent rfl rfl rfl
      rfl (by simp [Stop.held, free]) (by simp [Stop.held]) ?_
      (.inr (inv.inside.resolve_left (by simp [stop])))⟩
    -- By now the sender does not run, and the drain will not send.
    rintro (runs | ⟨x, clear⟩)
    · simp [orderly.running.mp runs] at stop
    · exact absurd clear (ended x)
  | @sweepSpool sub fate spool stop appends =>
    obtain ⟨free, unsent, ended⟩ := orderly.drain_over (by simp [stop, Stop.hasJoined])
    refine ⟨skipped, inv.keep (x := sub) (by simp [stop]) (by simp [stop, Stop.held, free])
      (by simp [unsent]) (by simp [entered]) (by simp [attempts]) (by simp [kept, appends.kept?]) rfl
      (by simp [Stop.held, free]) ?_⟩
    rintro (runs | ⟨x, clear⟩)
    · simp [orderly.running.mp runs] at stop
    · exact absurd clear (ended x)
  | sweepCount stop =>
    exact ⟨skipped, inv.of_same rfl rfl rfl rfl id rfl (by simp [stop, Stop.held])
      (by simp [stop])⟩
  | _ => exact ⟨skipped, inv.of_same rfl rfl rfl rfl id rfl rfl id⟩

end TelemetryRelay.Sender
