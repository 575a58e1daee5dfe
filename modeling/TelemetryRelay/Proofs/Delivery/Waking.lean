import Mathlib.Data.List.Perm.Basic
import TelemetryRelay.Proofs.Delivery.Moves

namespace TelemetryRelay.WaitingRoom
variable {α : Type}

/-- What is under way beside a sleeper. -/
structure Attended (r : WaitingRoom α) : Prop where
  items : r.queue.size ≤ r.entering + r.takers.count .woken
  closed : r.queue.closed = true → 0 < r.closing

section
variable {r r' : WaitingRoom α} {place : Nat} {taker : Taker}

/-- A taker apart from the others, who stay as they are when it changes or leaves. -/
theorem takers_perm (found : r.takers[place]? = some taker) :
    r.takers.Perm (taker :: r.takers.eraseIdx place) ∧
      ∀ became, (r.takers.set place became).Perm (became :: r.takers.eraseIdx place) := by
  obtain ⟨inside, rfl⟩ := List.getElem?_eq_some_iff.mp found
  exact ⟨(List.getElem_cons_eraseIdx_perm inside).symm, List.set_perm_cons_eraseIdx inside⟩

/-- One step keeps every sleeper attended. Who falls asleep has found the queue empty and open, and
whoever takes an item is at most one of those who were woken for one. -/
theorem move_attended {e : Event α} {answer : Option (Option α)} (move : Move r e answer r')
    (before : .asleep ∈ r.takers → r.Attended) (asleep : .asleep ∈ r'.takers) : r'.Attended := by
  cases move with
  | enqueue a =>
    obtain ⟨items, closed⟩ := before asleep
    refine ⟨?_, closed⟩
    simp only [DeliveryQueue.size, DeliveryQueue.enqueue, List.length_append,
      List.length_singleton] at items ⊢
    omega
  | wakeOne entering sleeper =>
    obtain ⟨items, closed⟩ := before (List.mem_of_getElem? sleeper)
    obtain ⟨parted, changed⟩ := takers_perm sleeper
    refine ⟨?_, closed⟩
    rw [parted.count_eq, List.count_cons_of_ne (by decide)] at items
    rw [(changed .woken).count_eq, List.count_cons_self]
    dsimp only
    omega
  | wakeNobody entering deserted =>
    rw [hasSleeper, List.contains_eq_mem, decide_eq_false_iff_not] at deserted
    exact absurd asleep deserted
  | close =>
    exact ⟨(before asleep).items, fun _ => Nat.succ_pos _⟩
  | wakeAll closing =>
    obtain ⟨taker, _, became⟩ := List.mem_map.mp asleep
    split at became
    next => contradiction
    next awake => exact absurd became awake
  | come =>
    obtain ⟨items, closed⟩ := before (by simpa using asleep)
    refine ⟨?_, closed⟩
    rw [List.count_append]
    exact Nat.le_trans items (Nat.add_le_add_left (Nat.le_add_right _ _) _)
  | @take place a rest awake waiting =>
    obtain ⟨taker, found⟩ : ∃ taker, r.takers[place]? = some taker :=
      awake.elim (⟨_, ·⟩) (⟨_, ·⟩)
    obtain ⟨items, closed⟩ := before (List.mem_of_mem_eraseIdx asleep)
    have woken : r.takers.count .woken ≤ (r.takers.eraseIdx place).count .woken + 1 := by
      rw [(takers_perm found).1.count_eq, List.count_cons]
      split <;> omega
    refine ⟨?_, closed⟩
    simp only [DeliveryQueue.size, waiting, List.length_cons] at items ⊢
    omega
  | leave _ waiting _ =>
    refine ⟨?_, (before (List.mem_of_mem_eraseIdx asleep)).closed⟩
    simp [DeliveryQueue.size, waiting]
  | sleep _ waiting open_ =>
    refine ⟨?_, fun closed => ?_⟩
    · simp [DeliveryQueue.size, waiting]
    · simp [open_] at closed
  | stir sleeper =>
    obtain ⟨items, closed⟩ := before (List.mem_of_getElem? sleeper)
    obtain ⟨parted, changed⟩ := takers_perm sleeper
    refine ⟨?_, closed⟩
    rw [parted.count_eq, List.count_cons_of_ne (by decide)] at items
    rwa [(changed .looking).count_eq, List.count_cons_of_ne (by decide)]
  | takeAtOnce waiting =>
    obtain ⟨items, closed⟩ := before asleep
    refine ⟨?_, closed⟩
    simp only [DeliveryQueue.size, waiting, List.length_cons] at items ⊢
    omega
  | goAtOnce => exact before asleep

theorem Reachable.attended (reachable : Reachable r) (asleep : .asleep ∈ r.takers) :
    r.Attended := by
  induction reachable with
  | empty => simp at asleep
  | next e _ step ih => exact move_attended (step_move step) ih asleep

theorem Reachable.run {events : List (Event α)} (reachable : Reachable r)
    (h : r.run events = some r') : Reachable r' := by
  induction events generalizing r with
  | nil =>
    cases Option.some.inj h
    exact reachable
  | cons e later ih =>
    obtain ⟨_, step, rest, _⟩ := run_cons h
    exact ih (.next e reachable step) rest

end

/-- No wake-up is lost, for any number of callers and in any order of their steps. While somebody
sleeps, there are at most as many items as there are calls that have put one in and not yet woken a
sleeper and calls that were woken and have not yet looked; and if the queue is closed, a call that
closed it has not yet woken the sleepers. So when all these calls have come to their end, a sleeper
sleeps at an empty and open queue. -/
theorem nobody_oversleeps {r : WaitingRoom α} (reachable : Reachable r)
    (asleep : .asleep ∈ r.takers) :
    r.queue.size ≤ r.entering + r.takers.count .woken ∧
    (r.queue.closed = true → 0 < r.closing) ∧
    (r.entering = 0 → r.closing = 0 → .woken ∉ r.takers →
      r.queue.items = [] ∧ r.queue.closed = false) := by
  obtain ⟨items, closed⟩ := reachable.attended asleep
  refine ⟨items, closed, fun entered shut unwoken => ⟨?_, ?_⟩⟩
  · rw [entered, List.count_eq_zero.mpr unwoken] at items
    exact List.eq_nil_of_length_eq_zero (Nat.le_zero.mp items)
  · refine Bool.eq_false_iff.mpr fun is_closed => ?_
    have pending := closed is_closed
    omega

/-- Three calls fall asleep, two items come, one sleeper is woken and another one wakes up by
itself; then the queue is closed. -/
def nightShift : List (Event Nat) :=
  [.come, .come, .come, .look 0, .look 1, .look 2, .enqueue 1, .enqueue 2, .wakeOne (some 0),
    .stir 1, .close]

theorem nightShift_nobody_oversleeps :
    let r : WaitingRoom Nat :=
      { queue := { items := [1, 2], closed := true }
        takers := [.woken, .looking, .asleep]
        entering := 1
        closing := 1
        entered := [1, 2] }
    Reachable r ∧ .asleep ∈ r.takers ∧ r.queue.size = 2 ∧
      2 ≤ r.entering + r.takers.count .woken ∧ 0 < r.closing := by
  intro r
  have happened : run {} nightShift = some r := rfl
  have reachable : Reachable r := Reachable.empty.run happened
  have asleep : .asleep ∈ r.takers := by decide
  obtain ⟨items, closed, _⟩ := nobody_oversleeps reachable asleep
  exact ⟨reachable, asleep, rfl, items, closed rfl⟩

end TelemetryRelay.WaitingRoom
