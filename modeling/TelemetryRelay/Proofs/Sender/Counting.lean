import TelemetryRelay.Proofs.Sender.Places

namespace TelemetryRelay.Sender

def Drain.fates : Drain → List Fate
  | .counting fate => [fate]
  | _ => []

def Stop.fates : Stop → List Fate
  | .counting fate => [fate]
  | _ => []

def SubmitCall.fates (call : SubmitCall) : List Fate :=
  match call.stage with
  | .counting fate => [fate]
  | _ => []

/-- The fates that are about to be counted. -/
def pendingFates (s : Sender) : List Fate :=
  s.drain.fates ++ s.stop.fates ++ s.submits.flatMap SubmitCall.fates

def Counters.total (c : Counters) : Fate → Nat
  | .sent => c.sent
  | .spooled => c.spooled
  | .dropped => c.dropped

theorem total_count (c : Counters) (met fate : Fate) :
    (c.count met).total fate = c.total fate + [met].count fate := by
  cases met <;> cases fate <;> simp [Counters.count, Counters.total]

def Deed.fate? : Deed → Option Fate
  | .sent _ => some .sent
  | .spooled _ => some .spooled
  | .dropped _ => some .dropped
  | _ => none

@[simp] theorem fate?_deed (fate : Fate) (x : Submission) : (fate.deed x).fate? = some fate := by
  cases fate <;> rfl

/-- The counters say how often each fate was met, but for those about to be counted. -/
def Counted (s : Sender) : Prop :=
  ∀ fate, s.counters.total fate + s.pendingFates.count fate =
    (s.journal.filterMap Deed.fate?).count fate

theorem pendingFates_parts (s : Sender) (fate : Fate) :
    s.pendingFates.count fate = s.drain.fates.count fate + s.stop.fates.count fate +
      (s.submits.flatMap SubmitCall.fates).count fate := by
  simp only [pendingFates, List.count_append]

theorem move_counted {s s' : Sender} {e : Event} (move : Move s e s') (num : s.Numbered)
    (inv : s.Counted) : s'.Counted := by
  intro fate
  have inv := inv fate
  rw [pendingFates_parts] at inv ⊢
  cases move with
  | submit => simpa [SubmitCall.fates] using inv
  | @submitLook call mem stage =>
    have after := count_withStage SubmitCall.fates num mem
      (if s.running then .queueing else .spooling) fate
    have before := count_erase_call SubmitCall.fates mem fate
    have same : ({ call with stage := if s.running then .queueing else .spooling } :
        SubmitCall).fates = call.fates := by
      cases s.running <;> simp [SubmitCall.fates, stage]
    rw [same, ← before] at after
    rw [after]
    exact inv
  | @enqueue call mem stage =>
    have before := count_erase_call SubmitCall.fates mem fate
    simp only [SubmitCall.fates, stage, List.count_nil, Nat.zero_add] at before
    simpa [List.filterMap_cons, Deed.fate?, ← before] using inv
  | @submitSpool call met spool mem stage =>
    have before := count_erase_call SubmitCall.fates mem fate
    have after := count_withStage SubmitCall.fates (s := { s with
      spool, journal := met.deed call.submission :: s.journal }) ⟨num.nodup, num.below⟩ mem
      (.counting met) fate
    simp only [SubmitCall.fates, stage, List.count_nil, Nat.zero_add] at before
    rw [after]
    simp only [withStage, SubmitCall.fates, List.filterMap_cons, fate?_deed, List.count_cons,
      List.count_nil] at before inv ⊢
    omega
  | @submitCount call met mem stage =>
    have before := count_erase_call SubmitCall.fates mem fate
    simp only [SubmitCall.fates, stage] at before
    simp only [total_count]
    omega
  | take drain => simpa [Drain.fates, drain] using inv
  | finish drain => simpa [Drain.fates, drain] using inv
  | drainLook drain => cases s.running <;> simpa [Drain.fates, drain] using inv
  | send drain => simpa [Drain.fates, drain, List.filterMap_cons, Deed.fate?] using inv
  | drainSpool drain =>
    simp only [Drain.fates, drain, List.filterMap_cons, fate?_deed, List.count_cons,
      List.count_nil] at inv ⊢
    omega
  | drainCount drain =>
    simp only [Drain.fates, drain, total_count, List.count_nil] at inv ⊢
    omega
  | accepted drain =>
    simp only [Drain.fates, drain, List.filterMap_cons, Deed.fate?, List.count_cons,
      List.count_nil] at inv ⊢
    omega
  | refused drain => simpa [Drain.fates, drain] using inv
  | broken drain => simpa [Drain.fates, drain, List.filterMap_cons, Deed.fate?] using inv
  | clear stop => simpa [Stop.fates, stop] using inv
  | close stop => simpa [Stop.fates, stop] using inv
  | join stop => simpa [Stop.fates, stop] using inv
  | sweepEnds stop => simpa [Stop.fates, stop] using inv
  | sweep stop => simpa [Stop.fates, stop] using inv
  | sweepSpool stop =>
    simp only [Stop.fates, stop, List.filterMap_cons, fate?_deed, List.count_cons,
      List.count_nil] at inv ⊢
    omega
  | sweepCount stop =>
    simp only [Stop.fates, stop, total_count, List.count_nil] at inv ⊢
    omega
  | _ => exact inv

end TelemetryRelay.Sender
