import TelemetryRelay.Delivery.WaitingRoom

namespace TelemetryRelay.WaitingRoom
variable {α : Type}

/-- A call is about to look at the queue, for the first time or again. -/
def Awake (r : WaitingRoom α) (place : Nat) : Prop :=
  r.takers[place]? = some .looking ∨ r.takers[place]? = some .woken

/-- What the call that takes an item returns if it ends with this event: an item, or none. -/
def returned (r : WaitingRoom α) : Event α → Option (Option α)
  | .look place =>
    match r.takers[place]?, r.queue.dequeue.1 with
    | some .looking, .item a | some .woken, .item a => some (some a)
    | some .looking, .finished | some .woken, .finished => some none
    | _, _ => none
  | .tryDequeue => some r.queue.tryDequeue.1
  | _ => none

/-- The single steps of a waiting room, with what a call returns. -/
inductive Move (r : WaitingRoom α) : Event α → Option (Option α) → WaitingRoom α → Prop where
  | enqueue (a : α) :
      Move r (.enqueue a) none
        { r with
          queue := r.queue.enqueue a
          entering := r.entering + 1
          entered := r.entered ++ [a] }
  | wakeOne {place : Nat} (entering : r.entering ≠ 0)
      (asleep : r.takers[place]? = some .asleep) :
      Move r (.wakeOne (some place)) none
        { r with entering := r.entering - 1, takers := r.takers.set place .woken }
  | wakeNobody (entering : r.entering ≠ 0) (deserted : r.hasSleeper = false) :
      Move r (.wakeOne none) none { r with entering := r.entering - 1 }
  | close : Move r .close none { r with queue := r.queue.close, closing := r.closing + 1 }
  | wakeAll (closing : r.closing ≠ 0) :
      Move r .wakeAll none
        { r with
          closing := r.closing - 1
          takers := r.takers.map fun t => if t = .asleep then .woken else t }
  | come : Move r .come none { r with takers := r.takers ++ [.looking] }
  | take {place : Nat} {a : α} {rest : List α} (awake : r.Awake place)
      (items : r.queue.items = a :: rest) :
      Move r (.look place) (some (some a))
        { r with
          queue := { r.queue with items := rest }
          takers := r.takers.eraseIdx place
          given := r.given ++ [a] }
  | leave {place : Nat} (awake : r.Awake place) (items : r.queue.items = [])
      (closed : r.queue.closed = true) :
      Move r (.look place) (some none) { r with takers := r.takers.eraseIdx place }
  | sleep {place : Nat} (awake : r.Awake place) (items : r.queue.items = [])
      (open_ : r.queue.closed = false) :
      Move r (.look place) none { r with takers := r.takers.set place .asleep }
  | stir {place : Nat} (asleep : r.takers[place]? = some .asleep) :
      Move r (.stir place) none { r with takers := r.takers.set place .looking }
  | takeAtOnce {a : α} {rest : List α} (items : r.queue.items = a :: rest) :
      Move r .tryDequeue (some (some a))
        { r with queue := { r.queue with items := rest }, given := r.given ++ [a] }
  | goAtOnce (items : r.queue.items = []) : Move r .tryDequeue (some none) r

section
variable {r r' : WaitingRoom α} {place : Nat}

theorem wake_eq_some {became : Taker} (h : r.wake place became = some r') :
    r.takers[place]? = some .asleep ∧ r' = { r with takers := r.takers.set place became } := by
  unfold wake at h
  split at h
  next asleep => exact ⟨asleep, (Option.some.inj h).symm⟩
  next => simp at h

/-- A move is a step, and the call returns what it says. -/
theorem Move.step_eq {e : Event α} {answer : Option (Option α)} (move : Move r e answer r') :
    r.step e = some r' ∧ r.returned e = answer := by
  cases move with
  | wakeOne entering asleep => simp [step, wake, returned, entering, asleep]
  | wakeNobody entering deserted => simp [step, returned, entering, deserted]
  | wakeAll closing => simp [step, returned, closing]
  | take awake items =>
    rcases awake with h | h <;> simp [step, look, returned, DeliveryQueue.dequeue, h, items]
  | leave awake items closed =>
    rcases awake with h | h <;> simp [step, look, returned, DeliveryQueue.dequeue, h, items, closed]
  | sleep awake items open_ =>
    rcases awake with h | h <;> simp [step, look, returned, DeliveryQueue.dequeue, h, items, open_]
  | stir asleep => simp [step, wake, returned, asleep]
  | takeAtOnce items => simp [step, returned, DeliveryQueue.tryDequeue, items]
  | goAtOnce items => simp [step, returned, DeliveryQueue.tryDequeue, items]
  | _ => exact ⟨rfl, rfl⟩

/-- A call that looks at the queue takes an item, leaves or falls asleep. -/
theorem Awake.exists_move (awake : r.Awake place) :
    ∃ answer r', Move r (.look place) answer r' := by
  cases items : r.queue.items with
  | cons a rest => exact ⟨_, _, .take awake items⟩
  | nil =>
    cases closed : r.queue.closed with
    | true => exact ⟨_, _, .leave awake items closed⟩
    | false => exact ⟨_, _, .sleep awake items closed⟩

theorem step_move {e : Event α} (h : r.step e = some r') : Move r e (r.returned e) r' := by
  cases e with
  | enqueue a => cases Option.some.inj h; exact .enqueue a
  | wakeOne place =>
    rw [step] at h
    split at h
    next => simp at h
    next entering =>
      cases place with
      | some place =>
        obtain ⟨asleep, rfl⟩ := wake_eq_some h
        exact .wakeOne entering asleep
      | none =>
        simp only [Option.ite_none_left_eq_some] at h
        cases Option.some.inj h.2
        exact .wakeNobody entering (by simpa using h.1)
  | close => cases Option.some.inj h; exact .close
  | wakeAll =>
    rw [step] at h
    split at h
    next => simp at h
    next closing => cases Option.some.inj h; exact .wakeAll closing
  | come => cases Option.some.inj h; exact .come
  | look place =>
    have awake : r.Awake place := by
      rw [step, look] at h
      split at h
      next found => exact .inl found
      next found => exact .inr found
      next => simp at h
    obtain ⟨answer, r'', move⟩ := awake.exists_move
    obtain ⟨eq, rfl⟩ := move.step_eq
    cases Option.some.inj (h.symm.trans eq)
    exact move
  | stir place =>
    obtain ⟨asleep, rfl⟩ := wake_eq_some h
    exact .stir asleep
  | tryDequeue =>
    obtain ⟨⟨items, closed⟩, takers, entering, closing, entered, given⟩ := r
    cases items with
    | nil => cases Option.some.inj h; exact .goAtOnce rfl
    | cons a rest => cases Option.some.inj h; exact .takeAtOnce rfl

end

/-- The state after events, if each of them can happen. -/
def run (r : WaitingRoom α) : List (Event α) → Option (WaitingRoom α)
  | [] => some r
  | e :: later => (r.step e).bind (·.run later)

/-- What the calls that take an item return in a run, in the order in which they end. -/
def answers (r : WaitingRoom α) : List (Event α) → List (Option α)
  | [] => []
  | e :: later =>
    match r.step e with
    | none => []
    | some r' => (r.returned e).toList ++ r'.answers later

theorem run_cons {r r'' : WaitingRoom α} {e : Event α} {later : List (Event α)}
    (h : r.run (e :: later) = some r'') :
    ∃ r', r.step e = some r' ∧ r'.run later = some r'' ∧
      r.answers (e :: later) = (r.returned e).toList ++ r'.answers later := by
  obtain ⟨r', step, rest⟩ := Option.bind_eq_some_iff.mp h
  exact ⟨r', step, rest, by rw [answers, step]⟩

end TelemetryRelay.WaitingRoom
