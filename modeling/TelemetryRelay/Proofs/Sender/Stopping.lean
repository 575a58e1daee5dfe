import TelemetryRelay.Proofs.Sender.Moves

namespace TelemetryRelay.Sender

/-- Whether stopping has come past the wait for drain and replayer. -/
def Stop.hasJoined : Stop → Bool
  | .sweeping | .spooling _ | .counting _ | .done => true
  | _ => false

structure Orderly (s : Sender) : Prop where
  running : s.running = true ↔ s.stop = .no
  /-- A call that submits a record is under way only before stopping and after it. -/
  quiet : s.stop = .no ∨ s.stop = .done ∨ s.submits = []
  /-- After stopping has begun no call puts a record into the queue. -/
  direct : s.stop = .no ∨ ∀ call ∈ s.submits, call.stage ≠ .queueing
  closed : s.stop = .no ∨ s.stop = .cleared ∨ s.queue.closed = true
  ended : s.stop.hasJoined = true → s.drain.isOver = true
  swept : s.stop = .done → s.queue.items = []

theorem start_orderly (spool : Spool) : (start spool).Orderly where
  running := by simp [start]
  quiet := .inl rfl
  direct := .inl rfl
  closed := .inl rfl
  ended := by simp [start, Stop.hasJoined]
  swept := by simp [start]

theorem admits_iff {s : Sender} : s.admits = true ↔ s.stop = .no ∨ s.stop = .done := by
  simp [admits]

theorem unused_submits {s : Sender} (h : s.unused = true) : s.submits = [] := by
  simp only [unused, Bool.and_eq_true, List.isEmpty_iff] at h
  exact h.1.1

theorem withStage_stage {s : Sender} {call c : SubmitCall} {stage : SubmitStage}
    (h : c ∈ (s.withStage call stage).submits) : c ∈ s.submits ∨ c.stage = stage := by
  obtain ⟨before, hb, eq⟩ := List.mem_map.mp h
  split at eq
  next => exact .inr (by rw [← eq])
  next => exact .inl (eq ▸ hb)

theorem move_running {s s' : Sender} {e : Event} (move : Move s e s') (inv : s.Orderly) :
    s'.running = true ↔ s'.stop = .no := by
  cases move with
  | clear => simp
  | close stop => simpa [stop] using inv.running
  | join stop => simpa [stop] using inv.running
  | sweepEnds stop => simpa [stop] using inv.running
  | sweep stop => simpa [stop] using inv.running
  | sweepSpool stop => simpa [stop] using inv.running
  | sweepCount stop => simpa [stop] using inv.running
  | _ => exact inv.running

/-- A sender on which a call is under way has not begun to stop, or has stopped. -/
theorem admits_of_mem {s : Sender} {call : SubmitCall} (inv : s.Orderly)
    (mem : call ∈ s.submits) : s.stop = .no ∨ s.stop = .done := by
  rcases inv.quiet with h | h | h
  · exact .inl h
  · exact .inr h
  · simp [h] at mem

theorem move_quiet {s s' : Sender} {e : Event} (move : Move s e s') (inv : s.Orderly) :
    s'.stop = .no ∨ s'.stop = .done ∨ s'.submits = [] := by
  cases move with
  | submit admits => exact (admits_iff.mp admits).imp_right .inl
  | submitLook mem => exact (admits_of_mem inv mem).imp_right .inl
  | enqueue mem => exact (admits_of_mem inv mem).imp_right .inl
  | submitSpool mem => exact (admits_of_mem inv mem).imp_right .inl
  | submitCount mem => exact (admits_of_mem inv mem).imp_right .inl
  | clear _ unused => exact .inr (.inr (unused_submits unused))
  | close stop => simpa [stop] using inv.quiet
  | join stop => simpa [stop] using inv.quiet
  | sweepEnds => exact .inr (.inl rfl)
  | sweep stop => simpa [stop] using inv.quiet
  | sweepSpool stop => simpa [stop] using inv.quiet
  | sweepCount stop => simpa [stop] using inv.quiet
  | _ => exact inv.quiet

theorem move_direct {s s' : Sender} {e : Event} (move : Move s e s') (inv : s.Orderly) :
    s'.stop = .no ∨ ∀ call ∈ s'.submits, call.stage ≠ .queueing := by
  cases move with
  | submit =>
    refine inv.direct.imp_right fun h call mem => ?_
    rcases List.mem_append.mp mem with old | new
    · exact h call old
    · simp [List.mem_singleton.mp new]
  | submitLook mem stage =>
    by_cases stop : s.stop = .no
    · exact .inl stop
    · have idle : s.running = false := by simpa [stop] using inv.running
      refine .inr fun c hc => ?_
      rcases withStage_stage hc with old | new
      · exact inv.direct.resolve_left stop c old
      · simp [new, idle]
  | enqueue => exact inv.direct.imp_right fun h c hc => h c (List.mem_of_mem_erase hc)
  | submitSpool =>
    refine inv.direct.imp_right fun h c hc => ?_
    rcases withStage_stage hc with old | new
    · exact h c old
    · simp [new]
  | submitCount => exact inv.direct.imp_right fun h c hc => h c (List.mem_of_mem_erase hc)
  | clear _ unused => simp [unused_submits unused]
  | close stop => simpa [stop] using inv.direct
  | join stop => simpa [stop] using inv.direct
  | sweepEnds stop => simpa [stop] using inv.direct
  | sweep stop => simpa [stop] using inv.direct
  | sweepSpool stop => simpa [stop] using inv.direct
  | sweepCount stop => simpa [stop] using inv.direct
  | _ => exact inv.direct

theorem move_closed {s s' : Sender} {e : Event} (move : Move s e s') (inv : s.Orderly) :
    s'.stop = .no ∨ s'.stop = .cleared ∨ s'.queue.closed = true := by
  cases move with
  | clear => exact .inr (.inl rfl)
  | close => exact .inr (.inr rfl)
  | join stop => simpa [stop] using inv.closed
  | sweepEnds stop => simpa [stop] using inv.closed
  | sweep stop => simpa [stop] using inv.closed
  | sweepSpool stop => simpa [stop] using inv.closed
  | sweepCount stop => simpa [stop] using inv.closed
  | _ => exact inv.closed

theorem move_over {s s' : Sender} {e : Event} (move : Move s e s') (inv : s.Orderly) :
    s'.stop.hasJoined = true → s'.drain.isOver = true := by
  cases move with
  | take drain => intro h; simpa [drain, Drain.isOver] using inv.ended h
  | finish => intro; rfl
  | drainLook drain => intro h; simpa [drain, Drain.isOver] using inv.ended h
  | send drain => intro h; simpa [drain, Drain.isOver] using inv.ended h
  | drainSpool drain => intro h; simpa [drain, Drain.isOver] using inv.ended h
  | drainCount drain => intro h; simpa [drain, Drain.isOver] using inv.ended h
  | accepted drain => intro h; simpa [drain, Drain.isOver] using inv.ended h
  | refused drain => intro h; simpa [drain, Drain.isOver] using inv.ended h
  | broken => intro; rfl
  | clear => simp [Stop.hasJoined]
  | close => simp [Stop.hasJoined]
  | join _ ended => exact fun _ => ended
  | sweepEnds stop => simpa [stop, Stop.hasJoined] using inv.ended
  | sweep stop => simpa [stop, Stop.hasJoined] using inv.ended
  | sweepSpool stop => simpa [stop, Stop.hasJoined] using inv.ended
  | sweepCount stop => simpa [stop, Stop.hasJoined] using inv.ended
  | _ => exact inv.ended

theorem move_swept {s s' : Sender} {e : Event} (move : Move s e s') (inv : s.Orderly) :
    s'.stop = .done → s'.queue.items = [] := by
  cases move with
  | enqueue mem stage =>
    intro done
    have stop : s.stop = .done := done
    exact absurd stage (inv.direct.resolve_left (by simp [stop]) _ mem)
  | take _ items => intro done; simp [inv.swept done] at items
  | clear => simp
  | close => simp
  | join => simp
  | sweepEnds _ items => exact fun _ => items
  | sweep => simp
  | sweepSpool => simp
  | sweepCount => simp
  | _ => exact inv.swept

theorem move_orderly {s s' : Sender} {e : Event} (move : Move s e s') (inv : s.Orderly) :
    s'.Orderly where
  running := move_running move inv
  quiet := move_quiet move inv
  direct := move_direct move inv
  closed := move_closed move inv
  ended := move_over move inv
  swept := move_swept move inv

end TelemetryRelay.Sender
