import Mathlib.Data.List.Nodup
import Mathlib.Data.List.Perm.Basic
import TelemetryRelay.Proofs.Sender.Stopping

namespace TelemetryRelay.Sender

/-- Where a record that was submitted can be. -/
inductive Place where
  | waiting
  /-- The drain or a call has it in its hands. -/
  | held
  | delivered
  | spooled
  | dropped
  /-- The drain broke down while it sent the record. -/
  | lost
  deriving DecidableEq

def Drain.held : Drain → List Submission
  | .taken sub | .clear sub | .sending sub | .spooling sub => [sub]
  | _ => []

def Stop.held : Stop → List Submission
  | .spooling sub => [sub]
  | _ => []

def SubmitCall.held (call : SubmitCall) : List Submission :=
  match call.stage with
  | .counting _ => []
  | _ => [call.submission]

/-- The records that the drain, stopping and the calls have in their hands. -/
def held (s : Sender) : List Submission :=
  s.drain.held ++ s.stop.held ++ s.submits.flatMap SubmitCall.held

/-- How often a record is in a place. -/
def times (s : Sender) (x : Submission) : Place → Nat
  | .waiting => s.queue.items.count x
  | .held => s.held.count x
  | .delivered => s.journal.count (.sent x)
  | .spooled => s.journal.count (.spooled x)
  | .dropped => s.journal.count (.dropped x)
  | .lost => s.journal.count (.lost x)

/-- The record whose way ends with a deed. -/
def Deed.settled? : Deed → Option Submission
  | .sent x | .spooled x | .dropped x | .lost x => some x
  | _ => none

/-- The records in all places. -/
def located (s : Sender) : List Submission :=
  s.queue.items ++ s.held ++ s.journal.filterMap Deed.settled?

theorem count_settled (journal : List Deed) (x : Submission) :
    (journal.filterMap Deed.settled?).count x =
      journal.count (.sent x) + journal.count (.spooled x) + journal.count (.dropped x) +
        journal.count (.lost x) := by
  induction journal with
  | nil => rfl
  | cons d journal ih =>
    cases d <;> simp [Deed.settled?, List.filterMap_cons, List.count_cons, ih] <;> omega

theorem count_located (s : Sender) (x : Submission) :
    s.located.count x =
      s.times x .waiting + s.times x .held + s.times x .delivered + s.times x .spooled +
        s.times x .dropped + s.times x .lost := by
  simp only [located, times, List.count_append, count_settled]
  omega

/-- A record that is located once is in one place, once. -/
theorem one_place {s : Sender} {x : Submission} (h : s.located.count x = 1) :
    ∃ p, ∀ q, s.times x q = if q = p then 1 else 0 := by
  rw [count_located] at h
  have only : ∀ p, s.times x p = 1 → ∃ p, ∀ q, s.times x q = if q = p then 1 else 0 := by
    intro p hp
    refine ⟨p, fun q => ?_⟩
    cases p <;> cases q <;> simp <;> omega
  have some_ : s.times x .waiting = 1 ∨ s.times x .held = 1 ∨ s.times x .delivered = 1 ∨
      s.times x .spooled = 1 ∨ s.times x .dropped = 1 ∨ s.times x .lost = 1 := by omega
  rcases some_ with h | h | h | h | h | h <;> exact only _ h

theorem no_place {s : Sender} {x : Submission} (h : s.located.count x = 0) (q : Place) :
    s.times x q = 0 := by
  rw [count_located] at h
  cases q <;> omega

/-- The calls under way have different numbers, all of them given out before. -/
structure Numbered (s : Sender) : Prop where
  nodup : (s.submits.map (·.submission.number)).Nodup
  below : ∀ call ∈ s.submits, call.submission.number < s.submitted

theorem withStage_numbers (s : Sender) (call : SubmitCall) (stage : SubmitStage) :
    (s.withStage call stage).submits.map (·.submission.number) =
      s.submits.map (·.submission.number) := by
  simp only [withStage, List.map_map]
  apply List.map_congr_left
  intro c _
  by_cases hc : c = call <;> simp [hc]

theorem Numbered.withStage {s : Sender} (h : s.Numbered) (call : SubmitCall) (stage : SubmitStage) :
    (s.withStage call stage).Numbered where
  nodup := by rw [withStage_numbers]; exact h.nodup
  below c hc := by
    have mem : c.submission.number ∈ (s.withStage call stage).submits.map (·.submission.number) :=
      List.mem_map_of_mem hc
    rw [withStage_numbers] at mem
    obtain ⟨c', hc', eq⟩ := List.mem_map.mp mem
    exact eq ▸ h.below c' hc'

theorem move_numbered {s s' : Sender} {e : Event} (move : Move s e s') (inv : s.Numbered) :
    s'.Numbered := by
  have erased (call : SubmitCall) :
      ((s.submits.erase call).map (·.submission.number)).Nodup ∧
        ∀ c ∈ s.submits.erase call, c.submission.number < s.submitted :=
    ⟨inv.nodup.sublist (List.erase_sublist.map _),
      fun c hc => inv.below c (List.mem_of_mem_erase hc)⟩
  cases move with
  | submit =>
    constructor
    · simp only [List.map_append, List.map_cons, List.map_nil]
      refine List.nodup_append.mpr ⟨inv.nodup, by simp, ?_⟩
      intro n hn m hm
      obtain ⟨call, hc, rfl⟩ := List.mem_map.mp hn
      have bound := inv.below call hc
      simp only [List.mem_singleton] at hm
      omega
    · intro c hc
      rcases List.mem_append.mp hc with old | new
      · exact Nat.lt_succ_of_lt (inv.below c old)
      · simp [List.mem_singleton.mp new]
  | submitLook => exact inv.withStage _ _
  | enqueue => exact ⟨(erased _).1, (erased _).2⟩
  | submitSpool =>
    refine Numbered.withStage ?_ _ _
    exact ⟨inv.nodup, inv.below⟩
  | submitCount => exact ⟨(erased _).1, (erased _).2⟩
  | _ => exact ⟨inv.nodup, inv.below⟩

/-- A call is put back once, since no two calls are the same. -/
theorem withStage_perm {s : Sender} {call : SubmitCall} (inv : s.Numbered)
    (mem : call ∈ s.submits) (stage : SubmitStage) :
    (s.withStage call stage).submits.Perm ({ call with stage } :: s.submits.erase call) := by
  have nodup : s.submits.Nodup := List.Nodup.of_map _ inv.nodup
  have perm := (List.perm_cons_erase mem).map
    fun c => if c = call then { call with stage } else c
  simp only [List.map_cons, ↓reduceIte] at perm
  refine perm.trans (.cons _ (.of_eq ?_))
  conv_rhs => rw [← List.map_id (s.submits.erase call)]
  apply List.map_congr_left
  intro c hc
  have other : c ≠ call := fun eq => (nodup.not_mem_erase (eq ▸ hc))
  simp [other]

section Calls
variable {α : Type} [DecidableEq α] {s : Sender} {call : SubmitCall}

theorem count_erase_call (f : SubmitCall → List α) (mem : call ∈ s.submits) (a : α) :
    (s.submits.flatMap f).count a =
      (f call).count a + ((s.submits.erase call).flatMap f).count a := by
  rw [((List.perm_cons_erase mem).flatMap_right f).count_eq]
  simp

theorem count_withStage (f : SubmitCall → List α) (inv : s.Numbered) (mem : call ∈ s.submits)
    (stage : SubmitStage) (a : α) :
    ((s.withStage call stage).submits.flatMap f).count a =
      (f { call with stage }).count a + ((s.submits.erase call).flatMap f).count a := by
  rw [((withStage_perm inv mem stage).flatMap_right f).count_eq]
  simp

end Calls

@[simp] theorem settled?_deed (fate : Fate) (x : Submission) :
    (fate.deed x).settled? = some x := by
  cases fate <;> rfl

/-- The record that an event brings, as the one with the next number. -/
def Event.submissions (number : Nat) : Event → List Submission
  | .submit record => [⟨number, record⟩]
  | _ => []

theorem located_parts (s : Sender) (x : Submission) :
    s.located.count x =
      s.queue.items.count x + s.drain.held.count x + s.stop.held.count x +
        (s.submits.flatMap SubmitCall.held).count x +
        (s.journal.filterMap Deed.settled?).count x := by
  simp only [located, held, List.count_append]
  omega

/-- A step moves records from place to place; only a new submission adds one. -/
theorem move_located {s s' : Sender} {e : Event} (move : Move s e s') (inv : s.Numbered)
    (x : Submission) :
    s'.located.count x = s.located.count x + (e.submissions s.submitted).count x := by
  simp only [located_parts]
  cases move with
  | submit =>
    simp only [Event.submissions, List.flatMap_append, List.flatMap_singleton, List.count_append,
      SubmitCall.held]
    omega
  | @submitLook call mem stage =>
    have after := count_withStage SubmitCall.held inv mem
      (if s.running then .queueing else .spooling) x
    have before := count_erase_call SubmitCall.held mem x
    have same : ({ call with stage := if s.running then .queueing else .spooling } :
        SubmitCall).held = call.held := by
      cases s.running <;> simp [SubmitCall.held, stage]
    rw [same] at after
    simp only [Event.submissions, List.count_nil]
    rw [after, before]
    rfl
  | @enqueue call mem stage =>
    have before := count_erase_call SubmitCall.held mem x
    have one : call.held = [call.submission] := by simp [SubmitCall.held, stage]
    simp only [Event.submissions, DeliveryQueue.enqueue, List.count_append, before, one,
      List.filterMap_cons, Deed.settled?, List.count_nil]
    omega
  | @submitSpool call fate spool mem stage =>
    have before := count_erase_call SubmitCall.held mem x
    have after := count_withStage SubmitCall.held (s := { s with
      spool, journal := fate.deed call.submission :: s.journal }) ⟨inv.nodup, inv.below⟩ mem
      (.counting fate) x
    have one : call.held = [call.submission] := by simp [SubmitCall.held, stage]
    rw [after, before, one]
    simp only [withStage, SubmitCall.held, Event.submissions, List.filterMap_cons, settled?_deed,
      List.count_cons, List.count_nil]
    omega
  | @submitCount call fate mem stage =>
    have before := count_erase_call SubmitCall.held mem x
    have none_ : call.held = [] := by simp [SubmitCall.held, stage]
    simp only [Event.submissions, before, none_, List.count_nil]
    omega
  | take drain items =>
    simp only [Drain.held, drain, items, Event.submissions, List.count_cons, List.count_nil]
    omega
  | finish drain => simp [Drain.held, drain, Event.submissions]
  | drainLook drain => cases s.running <;> simp [Drain.held, drain, Event.submissions]
  | send drain =>
    simp [Drain.held, drain, Event.submissions, List.filterMap_cons, Deed.settled?]
  | drainSpool drain =>
    simp only [Drain.held, drain, Event.submissions, List.filterMap_cons, settled?_deed,
      List.count_cons, List.count_nil]
    omega
  | drainCount drain => simp [Drain.held, drain, Event.submissions]
  | accepted drain =>
    simp only [Drain.held, drain, Event.submissions, List.filterMap_cons, Deed.settled?,
      List.count_cons, List.count_nil]
    omega
  | refused drain => simp [Drain.held, drain, Event.submissions]
  | broken drain =>
    simp only [Drain.held, drain, Event.submissions, List.filterMap_cons, Deed.settled?,
      List.count_cons, List.count_nil]
    omega
  | clear stop => simp [Stop.held, stop, Event.submissions]
  | close stop => simp [Stop.held, stop, Event.submissions, DeliveryQueue.close]
  | join stop => simp [Stop.held, stop, Event.submissions]
  | sweepEnds stop => simp [Stop.held, stop, Event.submissions]
  | sweep stop items =>
    simp only [Stop.held, stop, items, Event.submissions, List.count_cons, List.count_nil]
    omega
  | sweepSpool stop =>
    simp only [Stop.held, stop, Event.submissions, List.filterMap_cons, settled?_deed,
      List.count_cons, List.count_nil]
    omega
  | sweepCount stop => simp [Stop.held, stop, Event.submissions]
  | _ => rfl

end TelemetryRelay.Sender
