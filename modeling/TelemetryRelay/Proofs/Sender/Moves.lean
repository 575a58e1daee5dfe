import TelemetryRelay.Sender.Step

namespace TelemetryRelay.Sender

/-- What the journal notes when a record meets its fate. -/
def Fate.deed : Fate → Submission → Deed
  | .sent => .sent
  | .spooled => .spooled
  | .dropped => .dropped

/-- What a journal notes of one kind, the earliest first. -/
def noted {α : Type} (kind : Deed → Option α) (journal : List Deed) : List α :=
  (journal.filterMap kind).reverse

@[simp] theorem noted_cons {α : Type} (kind : Deed → Option α) (d : Deed) (journal : List Deed) :
    noted kind (d :: journal) = noted kind journal ++ (kind d).toList := by
  cases h : kind d <;> simp [noted, h]

/-- Appending a record to the spool, which no replay holds, ends with this fate and this spool. -/
def Appends (s : Sender) (sub : Submission) (fate : Fate) (spool : Spool) : Prop :=
  s.replaying = none ∧
    ((fate = .spooled ∧ s.spool.append sub.record.text = (.ok (), spool)) ∨
      (fate = .dropped ∧ ∃ e, s.spool.append sub.record.text = (.error e, spool)))

theorem spoolRecord_appends {s s' : Sender} {sub : Submission} {fate : Fate}
    (h : s.spoolRecord sub = some (fate, s')) :
    ∃ spool, s.Appends sub fate spool ∧
      s' = { s with spool, journal := fate.deed sub :: s.journal } := by
  unfold spoolRecord at h
  split at h
  next => simp at h
  next free =>
    have free : s.replaying = none := by simpa using free
    split at h
    next spool eq =>
      cases Option.some.inj h
      exact ⟨spool, ⟨free, .inl ⟨rfl, eq⟩⟩, rfl⟩
    next e spool eq =>
      cases Option.some.inj h
      exact ⟨spool, ⟨free, .inr ⟨rfl, e, eq⟩⟩, rfl⟩

/-- Whether the owner of a replay may begin it. -/
def MayReplay (s : Sender) : Owner → Prop
  | .caller => s.admits = true
  | .replayer => s.replayer = .ready

/-- The single steps of a sender. -/
inductive Move (s : Sender) : Event → Sender → Prop where
  | submit {record : Record} (admits : s.admits = true) :
      Move s (.submit record)
        { s with
          submitted := s.submitted + 1
          submits := s.submits ++ [{ submission := ⟨s.submitted, record⟩ }] }
  | submitLook {call : SubmitCall} (mem : call ∈ s.submits) (stage : call.stage = .entered) :
      Move s (.submitStep call.submission.number)
        (s.withStage call (if s.running then .queueing else .spooling))
  | enqueue {call : SubmitCall} (mem : call ∈ s.submits) (stage : call.stage = .queueing) :
      Move s (.submitStep call.submission.number)
        { s with
          queue := s.queue.enqueue call.submission
          submits := s.submits.erase call
          journal := .queued call.submission :: s.journal }
  | submitSpool {call : SubmitCall} {fate : Fate} {spool : Spool} (mem : call ∈ s.submits)
      (stage : call.stage = .spooling) (appends : s.Appends call.submission fate spool) :
      Move s (.submitStep call.submission.number)
        ({ s with spool, journal := fate.deed call.submission :: s.journal }.withStage call
          (.counting fate))
  | submitCount {call : SubmitCall} {fate : Fate} (mem : call ∈ s.submits)
      (stage : call.stage = .counting fate) :
      Move s (.submitStep call.submission.number)
        { s with counters := s.counters.count fate, submits := s.submits.erase call }
  | take {sub : Submission} {rest : List Submission} (drain : s.drain = .idle)
      (items : s.queue.items = sub :: rest) :
      Move s .drainStep { s with queue := { s.queue with items := rest }, drain := .taken sub }
  | finish (drain : s.drain = .idle) (items : s.queue.items = [])
      (closed : s.queue.closed = true) :
      Move s .drainStep { s with drain := .finished }
  | drainLook {sub : Submission} (drain : s.drain = .taken sub) :
      Move s .drainStep { s with drain := if s.running then .clear sub else .spooling sub }
  | send {sub : Submission} (drain : s.drain = .clear sub) :
      Move s .drainStep { s with drain := .sending sub, journal := .attempted sub :: s.journal }
  | drainSpool {sub : Submission} {fate : Fate} {spool : Spool} (drain : s.drain = .spooling sub)
      (appends : s.Appends sub fate spool) :
      Move s .drainStep
        { s with spool, drain := .counting fate, journal := fate.deed sub :: s.journal }
  | drainCount {fate : Fate} (drain : s.drain = .counting fate) :
      Move s .drainStep { s with counters := s.counters.count fate, drain := .idle }
  | accepted {sub : Submission} (drain : s.drain = .sending sub) :
      Move s (.lineAnswer .accepted)
        { s with drain := .counting .sent, journal := .sent sub :: s.journal }
  | refused {sub : Submission} (drain : s.drain = .sending sub) :
      Move s (.lineAnswer .refused) { s with drain := .spooling sub }
  | broken {sub : Submission} (drain : s.drain = .sending sub) :
      Move s (.lineAnswer .broken)
        { s with drain := .died sub, journal := .lost sub :: s.journal }
  | wake (replayer : s.replayer = .resting) :
      Move s .replayerWakes { s with replayer := if s.running then .ready else .finished }
  | replayBegins {owner : Owner} {r : Replay} {spool : Spool} (free : s.replaying = none)
      (may : s.MayReplay owner) (begins : s.spool.beginReplay = (.started r, spool)) :
      Move s (.beginReplay owner)
        { s with
          spool, replaying := some (owner, r)
          replayer := if owner = .caller then s.replayer else .busy }
  | replayFails {owner : Owner} {b : Spool.Beginning} {spool : Spool} (free : s.replaying = none)
      (may : s.MayReplay owner) (begins : s.spool.beginReplay = (b, spool))
      (vain : ∀ r, b ≠ .started r) :
      Move s (.beginReplay owner)
        { s with spool, replayer := if owner = .caller then s.replayer else .resting }
  | offer {owner : Owner} {r : Replay} {batch : List Bytes} {rest : List (List Bytes)}
      {accepted : Bool} (replaying : s.replaying = some (owner, r))
      (ahead : r.ahead = batch :: rest) :
      Move s (.offerBatch accepted)
        { s with
          replaying := some (owner, r.answer accepted)
          journal := .offered batch accepted :: s.journal }
  | settle {owner : Owner} {r : Replay} (replaying : s.replaying = some (owner, r))
      (ahead : r.ahead = []) :
      Move s .settleReplay
        { s with
          spool := { s.spool with files := r.settle s.spool.files }
          replaying := none
          uncounted := (owner, r.outcome.linesSent) :: s.uncounted }
  | countReplay {owner : Owner} {lines : Nat} (mem : (owner, lines) ∈ s.uncounted) :
      Move s (.countReplay owner lines)
        { s with
          uncounted := s.uncounted.erase (owner, lines)
          counters := { s.counters with replayed := s.counters.replayed + lines }
          replayer := if owner = .replayer then .resting else s.replayer }
  | clear (stop : s.stop = .no) (unused : s.unused = true) :
      Move s .stopStep { s with running := false, stop := .cleared }
  | close (stop : s.stop = .cleared) :
      Move s .stopStep { s with queue := s.queue.close, stop := .closed }
  | join (stop : s.stop = .closed) (ended : s.drain.isOver = true)
      (finished : s.replayer = .finished) :
      Move s .stopStep { s with stop := .sweeping }
  | sweepEnds (stop : s.stop = .sweeping) (items : s.queue.items = []) :
      Move s .stopStep { s with stop := .done }
  | sweep {sub : Submission} {rest : List Submission} (stop : s.stop = .sweeping)
      (items : s.queue.items = sub :: rest) :
      Move s .stopStep { s with queue := { s.queue with items := rest }, stop := .spooling sub }
  | sweepSpool {sub : Submission} {fate : Fate} {spool : Spool} (stop : s.stop = .spooling sub)
      (appends : s.Appends sub fate spool) :
      Move s .stopStep
        { s with spool, stop := .counting fate, journal := fate.deed sub :: s.journal }
  | sweepCount {fate : Fate} (stop : s.stop = .counting fate) :
      Move s .stopStep { s with counters := s.counters.count fate, stop := .sweeping }
  | stay (stop : s.stop = .done) : Move s .stopStep s
  | reach {possible : Bool} (free : s.replaying = none) :
      Move s (.reach possible)
        { s with spool := { s.spool with files := { s.spool.files with reachable := possible } } }

theorem submitStep_move {s s' : Sender} {call : SubmitCall} (mem : call ∈ s.submits)
    (h : s.submitStep call = some s') : Move s (.submitStep call.submission.number) s' := by
  unfold submitStep at h
  split at h
  next stage =>
    cases Option.some.inj h
    exact .submitLook mem stage
  next stage =>
    cases Option.some.inj h
    exact .enqueue mem stage
  next stage =>
    obtain ⟨⟨fate, s₁⟩, happ, rfl⟩ := Option.map_eq_some_iff.mp h
    obtain ⟨spool, appends, rfl⟩ := spoolRecord_appends happ
    exact .submitSpool mem stage appends
  next fate stage =>
    cases Option.some.inj h
    exact .submitCount mem stage

theorem drainStep_move {s s' : Sender} (h : s.drainStep = some s') : Move s .drainStep s' := by
  unfold drainStep at h
  split at h
  next drain =>
    unfold DeliveryQueue.dequeue at h
    split at h
    next sub queue eq =>
      split at eq
      next => split at eq <;> simp at eq
      next first rest items =>
        obtain ⟨rfl, rfl⟩ : first = sub ∧ _ := by simpa using eq
        cases Option.some.inj h
        exact .take drain items
    next eq =>
      split at eq
      next items =>
        cases hc : s.queue.closed with
        | false => simp [hc] at eq
        | true =>
          cases Option.some.inj h
          exact .finish drain items hc
      next => simp at eq
    next => simp at h
  next sub drain =>
    cases Option.some.inj h
    exact .drainLook drain
  next sub drain =>
    cases Option.some.inj h
    exact .send drain
  next => simp at h
  next sub drain =>
    obtain ⟨⟨fate, s₁⟩, happ, rfl⟩ := Option.map_eq_some_iff.mp h
    obtain ⟨spool, appends, rfl⟩ := spoolRecord_appends happ
    exact .drainSpool drain appends
  next fate drain =>
    cases Option.some.inj h
    exact .drainCount drain
  next => simp at h
  next => simp at h

theorem lineAnswer_move {s s' : Sender} {answer : LineAnswer}
    (h : s.lineAnswer answer = some s') : Move s (.lineAnswer answer) s' := by
  unfold lineAnswer at h
  split at h
  next sub drain =>
    cases answer with
    | accepted => cases Option.some.inj h; exact .accepted drain
    | refused => cases Option.some.inj h; exact .refused drain
    | broken => cases Option.some.inj h; exact .broken drain
  next => simp at h

theorem mayReplay_of_beginReplay {s s' : Sender} {owner : Owner}
    (h : s.beginReplay owner = some s') : s.replaying = none ∧ s.MayReplay owner := by
  unfold beginReplay at h
  cases hr : s.replaying with
  | some r => simp [hr] at h
  | none =>
    cases owner with
    | caller =>
      cases ha : s.admits with
      | true => exact ⟨rfl, ha⟩
      | false => simp [hr, ha] at h
    | replayer =>
      by_cases ready : s.replayer = .ready
      · exact ⟨rfl, ready⟩
      · simp [hr, ready] at h

theorem beginReplay_move {s s' : Sender} {owner : Owner} (h : s.beginReplay owner = some s') :
    Move s (.beginReplay owner) s' := by
  obtain ⟨free, may⟩ := mayReplay_of_beginReplay h
  have granted : (s.replaying.isSome ||
      !(if owner = .caller then s.admits else s.replayer == .ready)) = false := by
    cases owner <;> simpa [free, MayReplay] using may
  simp only [beginReplay, granted, Bool.false_eq_true, ↓reduceIte] at h
  split at h
  next r spool begins =>
    cases Option.some.inj h
    exact .replayBegins free may begins
  next spool begins =>
    cases Option.some.inj h
    exact .replayFails free may begins (by simp)
  next e spool begins =>
    cases Option.some.inj h
    exact .replayFails free may begins (by simp)

theorem offerBatch_move {s s' : Sender} {accepted : Bool} (h : s.offerBatch accepted = some s') :
    Move s (.offerBatch accepted) s' := by
  unfold offerBatch at h
  split at h
  next owner r replaying =>
    split at h
    next => simp at h
    next batch rest ahead =>
      cases Option.some.inj h
      exact .offer replaying ahead
  next => simp at h

theorem settleReplay_move {s s' : Sender} (h : s.settleReplay = some s') :
    Move s .settleReplay s' := by
  unfold settleReplay at h
  split at h
  next owner r replaying =>
    split at h
    next ended =>
      cases Option.some.inj h
      exact .settle replaying (List.isEmpty_iff.mp ended)
    next => simp at h
  next => simp at h

theorem countReplay_move {s s' : Sender} {owner : Owner} {lines : Nat}
    (h : s.countReplay owner lines = some s') : Move s (.countReplay owner lines) s' := by
  unfold countReplay at h
  split at h
  next mem =>
    cases Option.some.inj h
    exact .countReplay mem
  next => simp at h

theorem stopStep_move {s s' : Sender} (h : s.stopStep = some s') : Move s .stopStep s' := by
  unfold stopStep at h
  split at h
  next stop =>
    split at h
    next unused =>
      cases Option.some.inj h
      exact .clear stop unused
    next => simp at h
  next stop =>
    cases Option.some.inj h
    exact .close stop
  next stop =>
    split at h
    next joined =>
      cases Option.some.inj h
      simp only [Bool.and_eq_true, beq_iff_eq] at joined
      exact .join stop joined.1 joined.2
    next => simp at h
  next stop =>
    unfold DeliveryQueue.tryDequeue at h
    cases items : s.queue.items with
    | nil =>
      simp only [items] at h
      cases Option.some.inj h
      exact .sweepEnds stop items
    | cons sub rest =>
      simp only [items] at h
      cases Option.some.inj h
      exact .sweep stop items
  next sub stop =>
    obtain ⟨⟨fate, s₁⟩, happ, rfl⟩ := Option.map_eq_some_iff.mp h
    obtain ⟨spool, appends, rfl⟩ := spoolRecord_appends happ
    exact .sweepSpool stop appends
  next fate stop =>
    cases Option.some.inj h
    exact .sweepCount stop
  next stop =>
    cases Option.some.inj h
    exact .stay stop

/-- Every step of a sender is one of its moves. -/
theorem step_move {s s' : Sender} {e : Event} (h : s.step e = some s') : Move s e s' := by
  cases e with
  | submit record =>
    simp only [step] at h
    split at h
    next admits =>
      cases Option.some.inj h
      exact .submit admits
    next => simp at h
  | submitStep number =>
    simp only [step] at h
    split at h
    next call found =>
      obtain rfl : call.submission.number = number := by simpa using List.find?_some found
      exact submitStep_move (List.mem_of_find?_eq_some found) h
    next => simp at h
  | drainStep => exact drainStep_move h
  | lineAnswer answer => exact lineAnswer_move h
  | replayerWakes =>
    simp only [step] at h
    split at h
    next resting =>
      cases Option.some.inj h
      exact .wake resting
    next => simp at h
  | beginReplay owner => exact beginReplay_move h
  | offerBatch accepted => exact offerBatch_move h
  | settleReplay => exact settleReplay_move h
  | countReplay owner lines => exact countReplay_move h
  | stopStep => exact stopStep_move h
  | reach possible =>
    simp only [step, reach] at h
    split at h
    next => simp at h
    next free =>
      cases Option.some.inj h
      exact .reach (by simpa using free)

theorem run_append (s : Sender) (events later : List Event) :
    s.run (events ++ later) = (s.run events).bind (·.run later) := by
  induction events generalizing s with
  | nil => rfl
  | cons e rest ih =>
    rw [List.cons_append, run, run]
    cases s.step e with
    | none => rfl
    | some mid => exact ih mid

/-- What every move keeps holds after every run. -/
theorem run_keeps {P : Sender → Prop} {s s' : Sender} {events : List Event}
    (h : s.run events = some s') (keeps : ∀ {u u' e}, Move u e u' → P u → P u') (start : P s) :
    P s' := by
  induction events generalizing s with
  | nil =>
    cases Option.some.inj h
    exact start
  | cons e rest ih =>
    obtain ⟨mid, hstep, hrest⟩ := Option.bind_eq_some_iff.mp h
    exact ih hrest (keeps (step_move hstep) start)

end TelemetryRelay.Sender
