import Mathlib.Data.List.ReduceOption
import TelemetryRelay.Proofs.Delivery.Moves

namespace TelemetryRelay.WaitingRoom
variable {α : Type}

/-- The item that an event puts in. -/
def Event.entry? : Event α → Option α
  | .enqueue a => some a
  | _ => none

/-- The items that are put in, in order. -/
def entries (events : List (Event α)) : List α :=
  events.filterMap Event.entry?

/-- The items that calls return in a run, in order. -/
def handed (r : WaitingRoom α) (events : List (Event α)) : List α :=
  (r.answers events).reduceOption

theorem entries_cons (e : Event α) (later : List (Event α)) :
    entries (e :: later) = e.entry?.toList ++ entries later := by
  cases h : e.entry? <;> simp [entries, h]

section
variable {r r' : WaitingRoom α} {e : Event α} {answer : Option (Option α)}
  {events later : List (Event α)}

theorem handed_cons {r'' : WaitingRoom α} (h : r.run (e :: later) = some r'') :
    ∃ r', r.step e = some r' ∧ r'.run later = some r'' ∧
      r.handed (e :: later) = (r.returned e).join.toList ++ r'.handed later := by
  obtain ⟨r', step, rest, answers⟩ := run_cons h
  refine ⟨r', step, rest, ?_⟩
  rw [handed, answers, List.reduceOption_append, ← handed]
  rcases r.returned e with _ | _ | a <;> rfl

theorem move_items (move : Move r e answer r') :
    r.queue.items ++ e.entry?.toList = answer.join.toList ++ r'.queue.items := by
  cases move with
  | enqueue a => rfl
  | take _ items => simp [Event.entry?, items]
  | takeAtOnce items => simp [Event.entry?, items]
  | leave _ items => simp [Event.entry?, items]
  | goAtOnce items => simp [Event.entry?, items]
  | _ => simp [Event.entry?, DeliveryQueue.close]

/-- A call returns without an item only if there is none. -/
theorem move_empty (move : Move r e (some none) r') : r.queue.items = [] := by
  cases move with
  | leave _ items => exact items
  | goAtOnce items => exact items

theorem move_closed (move : Move r e answer r') :
    r'.queue.closed = true ↔ r.queue.closed = true ∨ e = .close := by
  cases move <;> simp [DeliveryQueue.enqueue, DeliveryQueue.close]

theorem move_logs (move : Move r e answer r') :
    r'.entered = r.entered ++ e.entry?.toList ∧ r'.given = r.given ++ answer.join.toList := by
  cases move <;> simp [Event.entry?]

/-- No item is lost, none comes twice, and none overtakes another. -/
theorem run_items (h : r.run events = some r') :
    r.queue.items ++ entries events = r.handed events ++ r'.queue.items := by
  induction events generalizing r with
  | nil => cases Option.some.inj h; simp [entries, handed, answers]
  | cons e later ih =>
    obtain ⟨r₁, step, rest, eq⟩ := handed_cons h
    calc r.queue.items ++ entries (e :: later)
        = (r.queue.items ++ e.entry?.toList) ++ entries later := by
          rw [entries_cons, List.append_assoc]
      _ = (r.returned e).join.toList ++ (r₁.queue.items ++ entries later) := by
          rw [move_items (step_move step), List.append_assoc]
      _ = r.handed (e :: later) ++ r'.queue.items := by rw [ih rest, eq, List.append_assoc]

theorem run_closed (h : r.run events = some r') :
    r'.queue.closed = true ↔ r.queue.closed = true ∨ .close ∈ events := by
  induction events generalizing r with
  | nil => cases Option.some.inj h; simp
  | cons e later ih =>
    obtain ⟨r₁, step, rest, _⟩ := run_cons h
    rw [ih rest, move_closed (step_move step), List.mem_cons, or_assoc, eq_comm (a := e)]

theorem run_logs (h : r.run events = some r') :
    r'.entered = r.entered ++ entries events ∧ r'.given = r.given ++ r.handed events := by
  induction events generalizing r with
  | nil => cases Option.some.inj h; simp [entries, handed, answers]
  | cons e later ih =>
    obtain ⟨r₁, step, rest, eq⟩ := handed_cons h
    obtain ⟨entered, given⟩ := ih rest
    obtain ⟨entry, answer⟩ := move_logs (step_move step)
    rw [entered, given, entry, answer, entries_cons, eq, List.append_assoc, List.append_assoc]
    exact ⟨rfl, rfl⟩

/-- The next calls that return get the items that wait, in order, as long as these last. -/
theorem answers_take {count : Nat} (h : r.run later = some r')
    (waiting : count ≤ r.queue.items.length) (returning : count ≤ (r.answers later).length) :
    (r.answers later).take count = (r.queue.items.take count).map some := by
  induction later generalizing r count with
  | nil => simp_all [answers]
  | cons e later ih =>
    obtain ⟨r₁, step, rest, eq⟩ := run_cons h
    have move := step_move step
    have items := move_items move
    rw [eq] at returning ⊢
    rcases count with _ | count
    · simp
    · rcases returned : r.returned e with _ | _ | a
      · -- Nobody returns, and the items that waited come first still.
        rw [returned] at items returning
        have same : r.queue.items ++ e.entry?.toList = r₁.queue.items := by simpa using items
        have first : r₁.queue.items.take (count + 1) = r.queue.items.take (count + 1) := by
          rw [← same, List.take_append_of_le_length waiting]
        have enough : count + 1 ≤ r₁.queue.items.length := by
          rw [← same, List.length_append]
          omega
        simpa [first] using ih rest enough (by simpa using returning)
      · rw [returned] at move
        simp [move_empty move] at waiting
      · rw [returned] at items returning
        obtain ⟨b, others, full⟩ := List.exists_cons_of_length_pos (Nat.lt_of_succ_le
          (Nat.le_trans (Nat.succ_le_succ (Nat.zero_le count)) waiting))
        rw [full] at items waiting
        obtain ⟨rfl, same⟩ : b = a ∧ others ++ e.entry?.toList = r₁.queue.items := by
          simpa using items
        have first : r₁.queue.items.take count = others.take count := by
          rw [← same, List.take_append_of_le_length (by simpa using waiting)]
        have enough : count ≤ r₁.queue.items.length := by
          rw [← same, List.length_append]
          simp only [List.length_cons] at waiting
          omega
        simpa [full, first] using ih rest enough (by simpa using returning)

/-- The room with one more call that has closed the queue and is to wake the sleepers. -/
def withCloser (r : WaitingRoom α) : WaitingRoom α :=
  { r with closing := r.closing + 1 }

/-- One more such call keeps no other one from its step, and changes nothing for it. -/
theorem Move.withCloser (move : Move r e answer r') : Move r.withCloser e answer r'.withCloser := by
  cases move with
  | enqueue a => exact .enqueue a
  | wakeOne entering asleep => exact .wakeOne entering asleep
  | wakeNobody entering deserted => exact .wakeNobody entering deserted
  | close => exact .close
  | wakeAll closing =>
    have woken : Move r.withCloser .wakeAll none _ := .wakeAll (Nat.succ_ne_zero _)
    have fewer : r.closing + 1 - 1 = r.closing - 1 + 1 := by omega
    simpa only [WaitingRoom.withCloser, fewer] using woken
  | come => exact .come
  | take awake items => exact .take awake items
  | leave awake items closed => exact .leave awake items closed
  | sleep awake items open_ => exact .sleep awake items open_
  | stir asleep => exact .stir asleep
  | takeAtOnce items => exact .takeAtOnce items
  | goAtOnce items => exact .goAtOnce items

theorem run_withCloser (h : r.run later = some r') :
    r.withCloser.run later = some r'.withCloser ∧
      r.withCloser.answers later = r.answers later := by
  induction later generalizing r with
  | nil => cases Option.some.inj h; exact ⟨rfl, rfl⟩
  | cons e later ih =>
    obtain ⟨r₁, step, rest, eq⟩ := run_cons h
    obtain ⟨step', returned⟩ := (step_move step).withCloser.step_eq
    obtain ⟨rest', same⟩ := ih rest
    rw [run, answers, step', returned, eq, ← same]
    exact ⟨rest', rfl⟩

theorem close_of_closed (closed : r.queue.closed = true) : r.step .close = some r.withCloser := by
  obtain ⟨⟨items, _⟩, takers, entering, closing, entered, given⟩ := r
  cases closed
  rfl

end

/-- What a call that looks at the queue comes to: it gets the oldest item, and without one it
returns none from a closed queue and falls asleep at an open one. -/
theorem Awake.outcome {r : WaitingRoom α} {place : Nat} (awake : r.Awake place) :
    ∃ r', r.step (.look place) = some r' ∧
      match r.queue.items.head?, r.queue.closed with
      | some a, _ => r.returned (.look place) = some (some a)
      | none, true => r.returned (.look place) = some none
      | none, false =>
        r.returned (.look place) = none ∧ r'.takers = r.takers.set place .asleep := by
  obtain ⟨answer, r', move⟩ := awake.exists_move
  obtain ⟨step, returned⟩ := move.step_eq
  refine ⟨r', step, ?_⟩
  cases move with
  | take _ items => simp [items, returned]
  | leave _ items closed => simp [items, closed, returned]
  | sleep _ items open_ => simp [items, open_, returned]

/-- A call that returns none from a look has found the queue empty and closed. -/
theorem empty_and_closed_of_returned {r : WaitingRoom α} {place : Nat}
    (h : r.returned (.look place) = some none) :
    r.queue.items = [] ∧ r.queue.closed = true := by
  obtain ⟨⟨items, closed⟩, takers, entering, closing, entered, given⟩ := r
  cases items <;> cases closed <;> rcases taker : takers[place]? with _ | _ | _ | _ <;>
    simp_all [returned, DeliveryQueue.dequeue]

theorem tryDequeue_outcome (r : WaitingRoom α) :
    (∃ r', r.step .tryDequeue = some r') ∧ r.returned .tryDequeue = some r.queue.items.head? := by
  cases items : r.queue.items with
  | nil => exact ⟨⟨_, (Move.goAtOnce items).step_eq.1⟩, (Move.goAtOnce items).step_eq.2⟩
  | cons a rest => exact ⟨⟨_, (Move.takeAtOnce items).step_eq.1⟩, (Move.takeAtOnce items).step_eq.2⟩

/-- A delivery queue is first in, first out, for any number of callers and in any order of their
steps. What has been handed out, followed by what waits, is what was put in. A call that looks gets
the oldest item that was not handed out, whether the queue is closed or not; without one it returns
none if the queue was closed and sleeps if it was not. The items that wait go, in order, to the next
calls that return. A queue that was closed stays closed, and closing it again changes nothing. -/
theorem run_first_in_first_out {events : List (Event α)} {r : WaitingRoom α}
    (h : run {} events = some r) :
    let out := handed {} events
    let put := entries events
    let next := put[out.length]?
    (out ++ r.queue.items = put ∧ r.given = out ∧ r.entered = put) ∧
    (r.queue.closed = true ↔ .close ∈ events) ∧
    (∀ place, r.returned (.look place) = some none → .close ∈ events ∧ out = put) ∧
    (∀ place, r.Awake place → ∃ r', r.step (.look place) = some r' ∧
      match next, r.queue.closed with
      | some a, _ => r.returned (.look place) = some (some a)
      | none, true => r.returned (.look place) = some none
      | none, false =>
        r.returned (.look place) = none ∧ r'.takers = r.takers.set place .asleep) ∧
    ((∃ r', r.step .tryDequeue = some r') ∧ r.returned .tryDequeue = some next) ∧
    (∀ later r', r.run later = some r' →
      (r.queue.closed = true → r'.queue.closed = true) ∧
      (r.queue.items.length ≤ (r.answers later).length →
        r.queue.items.map some <+: r.answers later)) ∧
    (.close ∈ events → r.step .close = some r.withCloser ∧
      ∀ later r', r.run later = some r' → r.withCloser.run later = some r'.withCloser ∧
        r.withCloser.answers later = r.answers later) := by
  intro out put next
  have items : put = out ++ r.queue.items := by simpa using run_items h
  have closed : r.queue.closed = true ↔ .close ∈ events := by simpa using run_closed h
  have logs : r.entered = put ∧ r.given = out := by simpa using run_logs h
  have oldest : next = r.queue.items.head? := by
    simp only [next]
    rw [items, List.getElem?_append_right (Nat.le_refl _), Nat.sub_self, List.head?_eq_getElem?]
  rw [oldest]
  refine ⟨⟨items.symm, logs.2, logs.1⟩, closed, fun place none_ => ?_, fun _ awake => awake.outcome,
    r.tryDequeue_outcome, fun later r' rest => ⟨fun shut => ?_, fun enough => ?_⟩, fun shut =>
    ⟨close_of_closed (closed.mpr shut), fun _ _ => run_withCloser⟩⟩
  · obtain ⟨empty, shut⟩ := empty_and_closed_of_returned none_
    exact ⟨closed.mp shut, by rw [items, empty, List.append_nil]⟩
  · exact (run_closed rest).mpr (.inl shut)
  · have first := answers_take rest (Nat.le_refl _) enough
    rw [List.take_length] at first
    exact first ▸ List.take_prefix _ _

/-- Two calls fall asleep, one of them takes the first item, and two more items come before and
after the queue is closed. -/
def crowd : List (Event Nat) :=
  [.come, .come, .look 0, .look 1, .enqueue 1, .wakeOne (some 1), .enqueue 2, .look 1, .close,
    .enqueue 3]

/-- What they leave behind: a sleeper that is about to be woken. -/
def crowdedRoom : WaitingRoom Nat where
  queue := { items := [2, 3], closed := true }
  takers := [.asleep]
  entering := 2
  closing := 1
  entered := [1, 2, 3]
  given := [1]

theorem crowdedRoom_first_in_first_out :
    run {} crowd = some crowdedRoom ∧
      handed {} crowd ++ crowdedRoom.queue.items = [1, 2, 3] ∧
      crowdedRoom.returned .tryDequeue = some (some 2) ∧
      [some 2, some 3] <+: crowdedRoom.answers [.wakeAll, .look 0, .tryDequeue, .come, .look 0] ∧
      crowdedRoom.answers [.wakeAll, .look 0, .tryDequeue, .come, .look 0] =
        [some 2, some 3, none] ∧
      crowdedRoom.step .close = some crowdedRoom.withCloser := by
  have reached : run {} crowd = some crowdedRoom := rfl
  obtain ⟨⟨items, _, _⟩, _, _, _, ⟨_, atOnce⟩, later, again⟩ := run_first_in_first_out reached
  have drained := (later [.wakeAll, .look 0, .tryDequeue, .come, .look 0] _ rfl).2 (by decide)
  exact ⟨reached, items, atOnce, drained, rfl, (again (by simp [crowd])).1⟩

end TelemetryRelay.WaitingRoom
