import TelemetryRelay.Proofs.Sender.Delivery

namespace TelemetryRelay.Sender

/-- A call to the server. -/
inductive Contact where
  | line (sub : Submission)
  /-- A batch, and who replays. -/
  | batch (owner : Owner) (lines : List Bytes)

def Contact.line? : Contact → Option Submission
  | .line sub => some sub
  | .batch _ _ => none

/-- The call to the server that an event makes. -/
def contact (s : Sender) : Event → Option Contact
  | .drainStep =>
    match s.drain with
    | .clear sub => some (.line sub)
    | _ => none
  | .offerBatch _ =>
    match s.replaying with
    | some (owner, r) => r.ahead.head?.map (.batch owner)
    | none => none
  | _ => none

/-- The calls to the server that events make, in order. -/
def contacts (s : Sender) : List Event → List Contact
  | [] => []
  | e :: rest => (s.contact e).toList ++ (s.step e).elim [] fun s => contacts s rest

/-- The records whose sending begins with events, in order. -/
def sends (s : Sender) (events : List Event) : List Submission :=
  (s.contacts events).filterMap Contact.line?

/-- A record that waits to be appended to the spool. -/
def Bound (s : Sender) (x : Submission) : Prop :=
  x ∈ s.queue.items ∨ s.drain = .taken x ∨ s.drain = .spooling x ∨ s.stop = .spooling x

/-- What has come, in a state `t`, of a sender that ceases to run with the first of the events, in a
state `s`. -/
structure Subdued (s t : Sender) (events : List Event) : Prop where
  halted : t.running = false
  /-- One record may be sent: the one for which the drain had seen that the sender runs. -/
  sent : s.sends events = [] ∨ ∃ x, s.drain = .clear x ∧ s.sends events = [x]
  /-- All other records that had not been sent go to the spool. -/
  spooled : ∀ x ∈ s.entered, x ∉ s.attempts → s.drain ≠ .clear x →
    .attempted x ∉ t.journal ∧ (t.Bound x ∨ .spooled x ∈ t.journal ∨ .dropped x ∈ t.journal) ∧
      (t.stop = .done → .spooled x ∈ t.journal ∨ .dropped x ∈ t.journal)
  /-- One replay may begin: the one for which the replayer had seen that the sender runs. -/
  replayed : events.count (.beginReplay .replayer) ≤ if s.replayer = .ready then 1 else 0

/-- What has come, in a state `t`, of a sender that had been stopped in a state `s`. -/
structure Silent (s t : Sender) (events : List Event) : Prop where
  halted : t.running = false ∧ t.stop = .done
  /-- The server is called only for callers that replay. -/
  called : ∀ c ∈ s.contacts events, ∃ lines, c = .batch .caller lines
  empty : t.queue.items = []
  /-- A call that submits a record has appended it to the spool, or tried to, when it returns. -/
  answered : ∀ x ∈ submissions s.submitted events, (∀ call ∈ t.submits, call.submission ≠ x) →
    .spooled x ∈ t.journal ∨ .dropped x ∈ t.journal
  /-- All that was met is counted, but for calls that have not returned. -/
  counted : ∀ fate, t.counters.total fate + (t.submits.flatMap SubmitCall.fates).count fate =
    (t.journal.filterMap Deed.fate?).count fate
  /-- Stopping again changes nothing. -/
  stopped : t.step .stopStep = some t

/-- Whose replays are under way or not yet counted. -/
def replays (s : Sender) : List Owner :=
  s.replaying.toList.map (·.1) ++ s.uncounted.map (·.1)

/-- The replayer against its replays and against stopping. -/
structure Attended (s : Sender) : Prop where
  busy : s.replays.count .replayer = if s.replayer = .busy then 1 else 0
  finished : s.stop.hasJoined = true → s.replayer = .finished

/-- A call that is about to count its record has appended it to the spool, or tried to. -/
def Honest (s : Sender) : Prop :=
  ∀ call ∈ s.submits, ∀ fate, call.stage = .counting fate → call.submission ∈ s.kept

theorem start_attended (spool : Spool) : (start spool).Attended where
  busy := rfl
  finished := by simp [start, Stop.hasJoined]

theorem start_honest (spool : Spool) : (start spool).Honest := by
  simp [Honest, start]

section Steps
variable {s s' : Sender} {e : Event}

theorem count_replays {owner : Owner} {lines : Nat} (mem : (owner, lines) ∈ s.uncounted) :
    s.replays.count .replayer =
      [owner].count .replayer +
        (s.replaying.toList.map (·.1) ++ (s.uncounted.erase (owner, lines)).map (·.1)).count
          .replayer := by
  have perm := ((List.perm_cons_erase mem).map (·.1)).count_eq .replayer
  simp only [replays, List.count_append, perm, List.map_cons, List.count_cons, List.count_nil]
  omega

theorem move_busy (move : Move s e s') (inv : s.Attended) :
    s'.replays.count .replayer = if s'.replayer = .busy then 1 else 0 := by
  have busy := inv.busy
  cases move with
  | wake resting => cases runs : s.running <;> simpa [replays, resting] using busy
  | @replayBegins owner r spool free may =>
    cases owner with
    | caller => simpa [replays, free] using busy
    | replayer =>
      have ready : s.replayer = .ready := may
      simpa [replays, free, ready] using busy
  | @replayFails owner begun spool free may =>
    cases owner with
    | caller => simpa [replays] using busy
    | replayer =>
      have ready : s.replayer = .ready := may
      simpa [replays, ready] using busy
  | offer replaying => simpa [replays, replaying] using busy
  | settle replaying => simpa [replays, replaying] using busy
  | @countReplay owner lines mem =>
    rw [count_replays mem] at busy
    cases owner with
    | caller => simpa [replays] using busy
    | replayer =>
      -- The replayer has no other replay.
      have one : s.replayer = .busy := by
        by_contra idle
        simp [idle] at busy
      simpa [replays, one] using busy
  | _ => exact busy

theorem move_finished (move : Move s e s') (inv : s.Attended) :
    s'.stop.hasJoined = true → s'.replayer = .finished := by
  have finished := inv.finished
  cases move with
  | wake resting =>
    intro joined
    simp [finished joined] at resting
  | @replayBegins owner r spool free may =>
    intro joined
    cases owner with
    | caller => exact finished joined
    | replayer => simp [MayReplay, finished joined] at may
  | @replayFails owner begun spool free may =>
    intro joined
    cases owner with
    | caller => exact finished joined
    | replayer => simp [MayReplay, finished joined] at may
  | @countReplay owner lines mem =>
    intro joined
    cases owner with
    | caller => exact finished joined
    | replayer =>
      have busy := inv.busy
      simp [count_replays mem, finished joined] at busy
  | clear => simp [Stop.hasJoined]
  | close => simp [Stop.hasJoined]
  | join _ _ ended => exact fun _ => ended
  | sweepEnds stop => simpa [stop, Stop.hasJoined] using finished
  | sweep stop => simpa [stop, Stop.hasJoined] using finished
  | sweepSpool stop => simpa [stop, Stop.hasJoined] using finished
  | sweepCount stop => simpa [stop, Stop.hasJoined] using finished
  | _ => exact finished

theorem move_attended (move : Move s e s') (inv : s.Attended) : s'.Attended :=
  ⟨move_busy move inv, move_finished move inv⟩

/-- Nothing is taken out of the journal. -/
theorem move_journal (move : Move s e s') {d : Deed} (mem : d ∈ s.journal) : d ∈ s'.journal := by
  cases move with
  | enqueue => exact List.mem_cons_of_mem _ mem
  | submitSpool => exact List.mem_cons_of_mem _ mem
  | send => exact List.mem_cons_of_mem _ mem
  | drainSpool => exact List.mem_cons_of_mem _ mem
  | accepted => exact List.mem_cons_of_mem _ mem
  | broken => exact List.mem_cons_of_mem _ mem
  | offer => exact List.mem_cons_of_mem _ mem
  | sweepSpool => exact List.mem_cons_of_mem _ mem
  | _ => exact mem

theorem move_kept (move : Move s e s') {x : Submission} (mem : x ∈ s.kept) : x ∈ s'.kept :=
  mem_kept.mpr ((mem_kept.mp mem).imp (move_journal move) (move_journal move))

theorem kept_submitSpool {call : SubmitCall} {fate : Fate} {spool : Spool}
    (appends : s.Appends call.submission fate spool) :
    ({ s with spool, journal := fate.deed call.submission :: s.journal }.withStage call
      (.counting fate)).kept = s.kept ++ [call.submission] := by
  simp [Sender.withStage, kept, appends.kept?]

theorem move_honest (move : Move s e s') (inv : s.Honest) : s'.Honest := by
  have old : ∀ call ∈ s.submits, ∀ fate, call.stage = .counting fate → call.submission ∈ s'.kept :=
    fun call mem fate stage => move_kept move (inv call mem fate stage)
  cases move with
  | submit =>
    intro c hc fate stage
    rcases List.mem_append.mp hc with before | new
    · exact old c before fate stage
    · simp [List.mem_singleton.mp new] at stage
  | submitLook =>
    intro c hc fate stage
    rcases withStage_stage hc with before | looked
    · exact old c before fate stage
    · rw [looked] at stage
      split at stage <;> contradiction
  | enqueue => exact fun c hc => old c (List.mem_of_mem_erase hc)
  | @submitSpool call met spool mem waits appends =>
    intro c hc fate stage
    obtain ⟨before, mem, same, rfl | ⟨rfl, _⟩⟩ := mem_withStage hc
    · exact old c mem fate stage
    · rw [kept_submitSpool appends, same]
      exact List.mem_append_right _ (List.mem_singleton_self _)
  | submitCount => exact fun c hc => old c (List.mem_of_mem_erase hc)
  | _ => exact old

/-- A sender that does not run does not run again. -/
theorem move_halted (move : Move s e s') (halted : s.running = false) : s'.running = false := by
  cases move with
  | clear => rfl
  | _ => exact halted

theorem move_done (move : Move s e s') (stop : s.stop = .done) : s'.stop = .done := by
  cases move with
  | clear no => simp [stop] at no
  | close cleared => simp [stop] at cleared
  | join closed => simp [stop] at closed
  | sweepEnds => rfl
  | sweep sweeping => simp [stop] at sweeping
  | sweepSpool spooling => simp [stop] at spooling
  | sweepCount counting => simp [stop] at counting
  | _ => exact stop

theorem Orderly.direct_of_halted (orderly : s.Orderly) (halted : s.running = false) :
    ∀ call ∈ s.submits, call.stage ≠ .queueing :=
  orderly.direct.resolve_left fun no => by simp [orderly.running.mpr no] at halted

/-- No record enters the queue of a sender that does not run. -/
theorem move_entered (move : Move s e s') (orderly : s.Orderly) (halted : s.running = false) :
    s'.entered = s.entered := by
  cases move with
  | enqueue mem stage => exact absurd stage (orderly.direct_of_halted halted _ mem)
  | submitSpool => simp [withStage, entered]
  | drainSpool => simp [entered]
  | sweepSpool => simp [entered]
  | _ => rfl

theorem move_attempts (move : Move s e s') :
    s'.attempts = s.attempts ++ (s.contact e).toList.filterMap Contact.line? := by
  cases move with
  | take drain => simp [contact, drain, attempts]
  | finish drain => simp [contact, drain, attempts]
  | drainLook drain => simp [contact, drain, attempts]
  | send drain => simp [contact, drain, attempts, Deed.attempted?, Contact.line?]
  | drainSpool drain => simp [contact, drain, attempts]
  | drainCount drain => simp [contact, drain, attempts]
  | submitSpool => simp [contact, withStage, attempts]
  | sweepSpool => simp [contact, attempts]
  | offer replaying ahead =>
    simp [contact, replaying, ahead, Contact.line?, attempts, Deed.attempted?]
  | _ => simp [contact, attempts, withStage, Deed.attempted?]

/-- A drain that finds the sender not running does not send. -/
theorem move_clear (move : Move s e s') (halted : s.running = false) {x : Submission}
    (clear : s'.drain = .clear x) :
    s.drain = .clear x ∧ (s.contact e).toList.filterMap Contact.line? = [] := by
  cases move with
  | take => simp at clear
  | finish => simp at clear
  | drainLook => simp [halted] at clear
  | send => simp at clear
  | drainSpool => simp at clear
  | drainCount => simp at clear
  | accepted => simp at clear
  | refused => simp at clear
  | broken => simp at clear
  | offer replaying ahead => exact ⟨clear, by simp [contact, replaying, ahead, Contact.line?]⟩
  | _ => exact ⟨clear, rfl⟩

theorem contact_line (s : Sender) (e : Event) :
    (s.contact e).toList.filterMap Contact.line? = [] ∨
      ∃ x, s.drain = .clear x ∧ (s.contact e).toList.filterMap Contact.line? = [x] := by
  cases e with
  | drainStep =>
    cases drain : s.drain with
    | clear x => exact .inr ⟨x, rfl, by simp [contact, drain, Contact.line?]⟩
    | _ => exact .inl (by simp [contact, drain])
  | offerBatch accepted =>
    left
    cases replaying : s.replaying with
    | none => simp [contact, replaying]
    | some holder =>
      cases ahead : holder.2.ahead <;> simp [contact, replaying, ahead, Contact.line?]
  | _ => exact .inl rfl

/-- A replay of the replayer uses up what it had seen, and it sees nothing new. -/
theorem move_ready (move : Move s e s') (halted : s.running = false) :
    [e].count (.beginReplay .replayer) + (if s'.replayer = .ready then 1 else 0) ≤
      if s.replayer = .ready then 1 else 0 := by
  cases move with
  | wake => simp [halted]
  | @replayBegins owner r spool free may =>
    cases owner with
    | caller => simp
    | replayer =>
      have ready : s.replayer = .ready := may
      simp [ready]
  | @replayFails owner begun spool free may =>
    cases owner with
    | caller => simp
    | replayer =>
      have ready : s.replayer = .ready := may
      simp [ready]
  | @countReplay owner lines mem => cases owner <;> simp
  | _ => exact Nat.le_of_eq (Nat.zero_add _)

theorem contact_of_done (orderly : s.Orderly) (attended : s.Attended) (stop : s.stop = .done)
    {c : Contact} (mem : c ∈ s.contact e) : ∃ lines, c = .batch .caller lines := by
  have joined : s.stop.hasJoined = true := by simp [stop, Stop.hasJoined]
  cases e with
  | drainStep =>
    have ended := orderly.ended joined
    cases drain : s.drain <;> simp [drain, Drain.isOver, contact] at ended mem
  | offerBatch accepted =>
    cases replaying : s.replaying with
    | none => simp [contact, replaying] at mem
    | some holder =>
      obtain ⟨owner, r⟩ := holder
      cases owner with
      | replayer =>
        have busy := attended.busy
        simp [replays, replaying, attended.finished joined] at busy
      | caller =>
        simp only [contact, replaying, Option.mem_def, Option.map_eq_some_iff] at mem
        obtain ⟨lines, _, rfl⟩ := mem
        exact ⟨lines, rfl⟩
  | _ => simp [contact] at mem

/-- The record has been appended to the spool, or a call is under way that will. -/
def Answered (s : Sender) (x : Submission) : Prop :=
  x ∈ s.kept ∨ ∃ call ∈ s.submits, call.submission = x

theorem Answered.of_calls {x : Submission} (h : s.Answered x)
    (kept : ∀ y ∈ s.kept, y ∈ s'.kept)
    (calls : ∀ call ∈ s.submits, s'.Answered call.submission) : s'.Answered x := by
  rcases h with h | ⟨call, mem, rfl⟩
  · exact .inl (kept x h)
  · exact calls call mem

theorem answered_withStage {call c : SubmitCall} {stage : SubmitStage} (mem : c ∈ s.submits) :
    (s.withStage call stage).Answered c.submission := by
  refine .inr ⟨_, List.mem_map_of_mem mem, ?_⟩
  by_cases same : c = call <;> simp [same]

theorem move_answered (move : Move s e s') (orderly : s.Orderly) (honest : s.Honest)
    (halted : s.running = false) {x : Submission} (h : s.Answered x) : s'.Answered x := by
  refine h.of_calls (fun y => move_kept move) fun c mem => ?_
  cases move with
  | submit => exact .inr ⟨c, List.mem_append_left _ mem, rfl⟩
  | submitLook => exact answered_withStage mem
  | enqueue mem' stage => exact absurd stage (orderly.direct_of_halted halted _ mem')
  | submitSpool => exact answered_withStage mem
  | @submitCount call fate mem' stage =>
    by_cases same : c = call
    · rw [same]
      exact .inl (honest call mem' fate stage)
    · exact .inr ⟨c, (List.mem_erase_of_ne same).mpr mem, rfl⟩
  | _ => exact .inr ⟨c, mem, rfl⟩

theorem move_submits (move : Move s e s') {x : Submission} (mem : x ∈ e.submissions s.submitted) :
    s'.Answered x := by
  cases move with
  | submit =>
    obtain rfl := List.mem_singleton.mp mem
    exact .inr ⟨_, List.mem_append_right _ (List.mem_singleton_self _), rfl⟩
  | _ => simp [Event.submissions] at mem

/-- What the account of a sender that stops rests on. -/
structure Watched (s : Sender) : Prop where
  inLine : s.InLine
  attended : s.Attended
  honest : s.Honest

theorem start_watched (spool : Spool) : (start spool).Watched :=
  ⟨start_inLine spool, start_attended spool, start_honest spool⟩

theorem move_watched (move : Move s e s') (inv : s.Watched) : s'.Watched :=
  ⟨move_inLine move inv.inLine, move_attended move inv.attended, move_honest move inv.honest⟩

end Steps

section Runs
variable {s t : Sender} {events : List Event}

theorem sends_cons {s s' : Sender} {e : Event} (step : s.step e = some s') (rest : List Event) :
    s.sends (e :: rest) = (s.contact e).toList.filterMap Contact.line? ++ s'.sends rest := by
  simp [sends, contacts, step]

theorem run_attempts (h : s.run events = some t) : t.attempts = s.attempts ++ s.sends events := by
  induction events generalizing s with
  | nil =>
    cases Option.some.inj h
    simp [sends, contacts]
  | cons e rest ih =>
    obtain ⟨mid, hstep, hrest⟩ := Option.bind_eq_some_iff.mp h
    rw [ih hrest, move_attempts (step_move hstep), sends_cons hstep, List.append_assoc]

theorem run_sends (h : s.run events = some t) (halted : s.running = false) :
    s.sends events = [] ∨ ∃ x, s.drain = .clear x ∧ s.sends events = [x] := by
  induction events generalizing s with
  | nil => exact .inl rfl
  | cons e rest ih =>
    obtain ⟨mid, hstep, hrest⟩ := Option.bind_eq_some_iff.mp h
    have move := step_move hstep
    rw [sends_cons hstep]
    rcases ih hrest (move_halted move halted) with none_ | ⟨x, clear, one⟩
    · simpa [none_] using contact_line s e
    · obtain ⟨before, silent⟩ := move_clear move halted clear
      exact .inr ⟨x, before, by rw [silent, one, List.nil_append]⟩

theorem run_begins (h : s.run events = some t) (halted : s.running = false) :
    events.count (.beginReplay .replayer) ≤ if s.replayer = .ready then 1 else 0 := by
  induction events generalizing s with
  | nil => exact Nat.zero_le _
  | cons e rest ih =>
    obtain ⟨mid, hstep, hrest⟩ := Option.bind_eq_some_iff.mp h
    have move := step_move hstep
    have later := ih hrest (move_halted move halted)
    have now := move_ready move halted
    rw [← List.singleton_append, List.count_append]
    omega

theorem run_contacts (h : s.run events = some t) (inv : s.Watched) (stop : s.stop = .done) :
    ∀ c ∈ s.contacts events, ∃ lines, c = .batch .caller lines := by
  induction events generalizing s with
  | nil => simp [contacts]
  | cons e rest ih =>
    obtain ⟨mid, hstep, hrest⟩ := Option.bind_eq_some_iff.mp h
    have move := step_move hstep
    intro c mem
    simp only [contacts, hstep, Option.elim_some, List.mem_append, Option.mem_toList] at mem
    rcases mem with now | later
    · exact contact_of_done inv.inLine.sound.orderly inv.attended stop now
    · exact ih hrest (move_watched move inv) (move_done move stop) c later

theorem run_answered (h : s.run events = some t) (inv : s.Watched) (halted : s.running = false)
    {x : Submission} (mem : s.Answered x ∨ x ∈ submissions s.submitted events) : t.Answered x := by
  induction events generalizing s with
  | nil =>
    cases Option.some.inj h
    exact mem.resolve_right (by simp [submissions])
  | cons e rest ih =>
    obtain ⟨mid, hstep, hrest⟩ := Option.bind_eq_some_iff.mp h
    have move := step_move hstep
    refine ih hrest (move_watched move inv) (move_halted move halted) ?_
    rw [move_submitted move]
    rcases mem with old | new
    · exact .inl (move_answered move inv.inLine.sound.orderly inv.honest halted old)
    · exact (List.mem_append.mp new).imp_left (move_submits move)

end Runs

/-- A record that left the queue unsent waits for the spool or has been appended to it. -/
theorem Fifo.bound_or_kept {s : Sender} {skipped : List Submission} {x : Submission}
    (inv : s.Fifo skipped) (entered : x ∈ s.entered) (unsent : x ∉ s.attempts)
    (clear : s.drain ≠ .clear x) : s.Bound x ∨ x ∈ s.kept := by
  rw [inv.entered, List.append_assoc] at entered
  rcases List.mem_append.mp ((List.mem_append.mp entered).resolve_left unsent) with left_ | waiting
  · rcases inv.served x left_ with kept | drain | stop
    · exact .inr kept
    · cases held : s.drain <;> simp [held, Drain.unsent] at drain <;> subst drain
      · exact .inl (.inr (.inl held))
      · exact absurd held clear
      · exact .inl (.inr (.inr (.inl held)))
    · cases held : s.stop <;> simp [held, Stop.held] at stop
      exact .inl (.inr (.inr (.inr (stop ▸ held))))
  · exact .inl (.inl waiting)

theorem not_bound_of_done {s : Sender} (orderly : s.Orderly) (stop : s.stop = .done)
    {x : Submission} : ¬ s.Bound x := by
  have ended := orderly.ended (by simp [stop, Stop.hasJoined])
  rintro (waiting | taken | spooling | sweeping)
  · simp [orderly.swept stop] at waiting
  · simp [taken, Drain.isOver] at ended
  · simp [spooling, Drain.isOver] at ended
  · simp [stop] at sweeping

/-- The first step of stopping clears the flag and leaves everything else. -/
theorem step_clear {s s' : Sender} (no : s.stop = .no) (h : s.step .stopStep = some s') :
    s' = { s with running := false, stop := .cleared } := by
  cases step_move h with
  | clear => rfl
  | close stop => simp [no] at stop
  | join stop => simp [no] at stop
  | sweepEnds stop => simp [no] at stop
  | sweep stop => simp [no] at stop
  | sweepSpool stop => simp [no] at stop
  | sweepCount stop => simp [no] at stop
  | stay stop => simp [no] at stop

/-- A sender that does not run takes no record into its queue, and its drain clears none. -/
theorem run_halted {s t : Sender} {events : List Event} (h : s.run events = some t)
    (inv : s.Watched) (halted : s.running = false) :
    t.Watched ∧ t.running = false ∧ t.entered = s.entered ∧
      ∀ x, t.drain = .clear x → s.drain = .clear x := by
  refine run_keeps (P := fun u => u.Watched ∧ u.running = false ∧ u.entered = s.entered ∧
    ∀ x, u.drain = .clear x → s.drain = .clear x) h ?_ ⟨inv, halted, rfl, fun _ => id⟩
  rintro u u' e move ⟨inv, halted, same, clear⟩
  exact ⟨move_watched move inv, move_halted move halted,
    (move_entered move inv.inLine.sound.orderly halted).trans same,
    fun x cleared => clear x (move_clear move halted cleared).1⟩

theorem Watched.subdued {s t : Sender} {later : List Event} (inv : s.Watched) (no : s.stop = .no)
    (h : s.run (.stopStep :: later) = some t) : s.Subdued t (.stopStep :: later) := by
  obtain ⟨mid, clears, run⟩ := Option.bind_eq_some_iff.mp h
  have watched := move_watched (step_move clears) inv
  have same : s.sends (.stopStep :: later) = mid.sends later := sends_cons clears later
  obtain rfl := step_clear no clears
  obtain ⟨⟨inLine, _, _⟩, halted, entered, drain⟩ := run_halted run watched rfl
  have sent : s.sends (.stopStep :: later) = [] ∨
      ∃ x, s.drain = .clear x ∧ s.sends (.stopStep :: later) = [x] := by
    rw [same]
    exact run_sends run rfl
  refine ⟨halted, sent, fun x mem unsent clear => ?_, by simpa using run_begins run rfl⟩
  have never : x ∉ t.attempts := by
    rw [run_attempts h, List.mem_append]
    rintro (before | now)
    · exact unsent before
    · rcases sent with none_ | ⟨y, held, one⟩
      · simp [none_] at now
      · rw [one, List.mem_singleton] at now
        exact clear (now ▸ held)
  obtain ⟨skipped, fifo⟩ := inLine.fifo
  have way := fifo.bound_or_kept (entered ▸ mem) never fun cleared => clear (drain x cleared)
  exact ⟨fun sent => never (mem_attempts.mpr sent), way.imp_right mem_kept.mp, fun done =>
    mem_kept.mp (way.resolve_left (not_bound_of_done inLine.sound.orderly done))⟩

theorem Watched.silent {s t : Sender} {later : List Event} (inv : s.Watched) (stop : s.stop = .done)
    (h : s.run later = some t) : s.Silent t later := by
  have halted : s.running = false := by
    have flag := inv.inLine.sound.orderly.running
    simpa [stop] using flag
  obtain ⟨⟨inLine, _, _⟩, halted', _⟩ := run_halted h inv halted
  have done : t.stop = .done := run_keeps h move_done stop
  refine ⟨⟨halted', done⟩, run_contacts h inv stop, inLine.sound.orderly.swept done,
    fun x mem returned => ?_, fates_of_stopped inLine.sound done, by simp [step, stopStep, done]⟩
  rcases run_answered h inv halted (.inr mem) with kept | ⟨call, under, same⟩
  · exact mem_kept.mp kept
  · exact absurd same (returned call under)

/-- When a sender ceases to run, at most one more record is sent and one more replay begins of its
own, those for which drain and replayer had seen before that it runs; every other record that had
not been sent goes to the spool, and the sender never runs again. Once it has been stopped the
server is called only by callers that replay, each record that is submitted is appended to the spool
or counted as dropped by its own call, the queue stays empty, and stopping it again changes
nothing. -/
theorem stop_silences {spool : Spool} {events : List Event} {s : Sender}
    (h : (start spool).run events = some s) :
    (s.stop = .no → ∀ later t, s.run (.stopStep :: later) = some t →
      s.Subdued t (.stopStep :: later)) ∧
    (s.stop = .done → ∀ later t, s.run later = some t → s.Silent t later) := by
  have inv : s.Watched := run_keeps h move_watched (start_watched spool)
  exact ⟨fun no later t run => inv.subdued no run, fun stop later t run => inv.silent stop run⟩

/-- A record is spooled, and when the flag is cleared drain and replayer have seen that the sender
runs; a third record waits in the queue. -/
def beforeHalt : List Event :=
  [.submit ⟨"a v=1i"⟩, .submitStep 0, .submitStep 0, .drainStep, .drainStep, .drainStep,
    .lineAnswer .refused, .drainStep, .drainStep, .submit ⟨"b v=2i"⟩, .submitStep 1, .submitStep 1,
    .submit ⟨"c v=3i"⟩, .submitStep 2, .submitStep 2, .drainStep, .drainStep, .replayerWakes]

/-- The one record is sent and the one replay begins; the other record is spooled. -/
def halt : List Event :=
  [.stopStep, .beginReplay .replayer, .drainStep, .offerBatch true, .stopStep, .settleReplay,
    .lineAnswer .accepted, .drainStep, .countReplay .replayer 1, .drainStep, .drainStep,
    .drainStep, .drainStep, .drainStep, .replayerWakes, .stopStep, .stopStep]

/-- Two records come when stopping is over, and a caller replays. -/
def afterHalt : List Event :=
  [.submit ⟨"d v=4i"⟩, .submitStep 3, .beginReplay .caller, .offerBatch false, .settleReplay,
    .submitStep 3, .submitStep 3, .stopStep, .reach false, .submit ⟨"e v=5i"⟩, .submitStep 4,
    .submitStep 4]

theorem halt_silences :
    ∃ s t u, (start {}).run beforeHalt = some s ∧ s.run halt = some t ∧ t.run afterHalt = some u ∧
      (s.stop = .no ∧ s.replayer = .ready ∧ s.drain = .clear ⟨1, ⟨"b v=2i"⟩⟩ ∧
        (s.sends halt).map (·.number) = [1]) ∧
      (t.stop = .done ∧ (t.contacts afterHalt).length = 1 ∧ u.kept.map (·.number) = [0, 2, 3, 4]) ∧
      s.Subdued t halt ∧ t.Silent u afterHalt := by
  have runs : ((start {}).run beforeHalt).any fun s => (s.run halt).any fun t =>
      (t.run afterHalt).any fun u =>
        (s.stop = .no ∧ s.replayer = .ready ∧ s.drain = .clear ⟨1, ⟨"b v=2i"⟩⟩ ∧
          (s.sends halt).map (·.number) = [1]) ∧
        (t.stop = .done ∧ (t.contacts afterHalt).length = 1 ∧
          u.kept.map (·.number) = [0, 2, 3, 4]) := by
    decide +kernel
  obtain ⟨s, before, runs⟩ := (Option.any_eq_true ..).mp runs
  obtain ⟨t, stops, runs⟩ := (Option.any_eq_true ..).mp runs
  obtain ⟨u, after, facts⟩ := (Option.any_eq_true ..).mp runs
  obtain ⟨atHalt, stopped⟩ := of_decide_eq_true facts
  have first := (stop_silences before).1 atHalt.1 _ t stops
  have whole : (start {}).run (beforeHalt ++ halt) = some t := by
    rw [run_append, before, Option.bind_some, stops]
  have second := (stop_silences whole).2 stopped.1 _ u after
  exact ⟨s, t, u, before, stops, after, atHalt, stopped, first, second⟩

end TelemetryRelay.Sender
