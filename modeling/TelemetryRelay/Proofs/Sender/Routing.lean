import TelemetryRelay.Proofs.Sender.Counting
import TelemetryRelay.Proofs.Spool.Keeping

namespace TelemetryRelay.Sender

/-- The record with which the drain broke down. -/
def Drain.lost : Drain → List Submission
  | .died sub => [sub]
  | _ => []

def Deed.lost? : Deed → Option Submission
  | .lost sub => some sub
  | _ => none

@[simp] theorem lost?_deed (fate : Fate) (x : Submission) : (fate.deed x).lost? = none := by
  cases fate <;> rfl

theorem count_lost (journal : List Deed) (x : Submission) :
    (journal.filterMap Deed.lost?).count x = journal.count (.lost x) := by
  induction journal with
  | nil => rfl
  | cons d journal ih =>
    cases d <;> simp [Deed.lost?, List.filterMap_cons, List.count_cons, ih]

/-- A record is lost only with the drain. -/
def LostWithDrain (s : Sender) : Prop :=
  s.journal.filterMap Deed.lost? = s.drain.lost

theorem move_lost {s s' : Sender} {e : Event} (move : Move s e s') (inv : s.LostWithDrain) :
    s'.LostWithDrain := by
  unfold LostWithDrain at inv ⊢
  cases move with
  | submitSpool => simpa [withStage, List.filterMap_cons] using inv
  | take drain => simpa [Drain.lost, drain] using inv
  | finish drain => simpa [Drain.lost, drain] using inv
  | drainLook drain => cases s.running <;> simpa [Drain.lost, drain] using inv
  | send drain => simpa [Drain.lost, drain, List.filterMap_cons, Deed.lost?] using inv
  | drainSpool drain => simpa [Drain.lost, drain, List.filterMap_cons] using inv
  | drainCount drain => simpa [Drain.lost, drain] using inv
  | accepted drain => simpa [Drain.lost, drain, List.filterMap_cons, Deed.lost?] using inv
  | refused drain => simpa [Drain.lost, drain] using inv
  | broken drain => simpa [Drain.lost, drain, List.filterMap_cons, Deed.lost?] using inv
  | sweepSpool => simpa [List.filterMap_cons] using inv
  | _ => exact inv

/-- The records that events bring, each with its number in the order of submission. -/
def submissions : Nat → List Event → List Submission
  | _, [] => []
  | number, e :: rest =>
    e.submissions number ++ submissions (number + (e.submissions number).length) rest

theorem number_of_submissions {number : Nat} {events : List Event} {x : Submission}
    (h : x ∈ submissions number events) : number ≤ x.number := by
  induction events generalizing number with
  | nil => simp [submissions] at h
  | cons e rest ih =>
    rcases List.mem_append.mp h with now | later
    · cases e <;> simp [Event.submissions] at now
      simp [now]
    · exact Nat.le_trans (Nat.le_add_right _ _) (ih later)

theorem submissions_nodup (number : Nat) (events : List Event) :
    (submissions number events).Nodup := by
  induction events generalizing number with
  | nil => exact List.nodup_nil
  | cons e rest ih =>
    refine List.nodup_append.mpr ⟨?_, ih _, ?_⟩
    · cases e <;> simp [Event.submissions]
    · rintro x hx y hy rfl
      have later := number_of_submissions hy
      cases e <;> simp [Event.submissions] at hx later
      simp only [hx] at later
      omega

/-- What a sender keeps through every run. -/
structure Sound (s : Sender) : Prop where
  orderly : s.Orderly
  numbered : s.Numbered
  counted : s.Counted
  lost : s.LostWithDrain

theorem start_sound (spool : Spool) : (start spool).Sound where
  orderly := start_orderly spool
  numbered := ⟨by simp [start], by simp [start]⟩
  counted fate := by cases fate <;> rfl
  lost := rfl

theorem move_sound {s s' : Sender} {e : Event} (move : Move s e s') (inv : s.Sound) :
    s'.Sound where
  orderly := move_orderly move inv.orderly
  numbered := move_numbered move inv.numbered
  counted := move_counted move inv.numbered inv.counted
  lost := move_lost move inv.lost

theorem move_submitted {s s' : Sender} {e : Event} (move : Move s e s') :
    s'.submitted = s.submitted + (e.submissions s.submitted).length := by
  cases move <;> rfl

/-- A run keeps a sender sound, and the records in all places are those it had and those that came. -/
theorem run_sound {s s' : Sender} {events : List Event} (h : s.run events = some s')
    (inv : s.Sound) :
    s'.Sound ∧ ∀ x, s'.located.count x =
      s.located.count x + (submissions s.submitted events).count x := by
  induction events generalizing s with
  | nil =>
    cases Option.some.inj h
    exact ⟨inv, fun x => by simp [submissions]⟩
  | cons e rest ih =>
    obtain ⟨mid, hstep, hrest⟩ := Option.bind_eq_some_iff.mp h
    have move := step_move hstep
    obtain ⟨sound, count⟩ := ih hrest (move_sound move inv)
    refine ⟨sound, fun x => ?_⟩
    rw [count x, move_located move inv.numbered, move_submitted move, submissions,
      List.count_append]
    omega

theorem start_located (spool : Spool) (x : Submission) : (start spool).located.count x = 0 := rfl

theorem run_located {spool : Spool} {events : List Event} {s : Sender}
    (h : (start spool).run events = some s) (x : Submission) :
    s.located.count x = (submissions 0 events).count x := by
  rw [(run_sound h (start_sound spool)).2 x, start_located, Nat.zero_add]
  rfl

/-- Nothing waits and nothing is under way when a sender has stopped and no call uses it. -/
theorem idle_of_stopped {s : Sender} (inv : s.Orderly) (stop : s.stop = .done)
    (submits : s.submits = []) : s.queue.items = [] ∧ s.held = [] ∧ s.pendingFates = [] := by
  have ended := inv.ended (by simp [stop, Stop.hasJoined])
  refine ⟨inv.swept stop, ?_, ?_⟩
  · cases hd : s.drain <;> simp [hd, Drain.isOver] at ended <;>
      simp [held, hd, Drain.held, stop, Stop.held, submits]
  · cases hd : s.drain <;> simp [hd, Drain.isOver] at ended <;>
      simp [pendingFates, hd, Drain.fates, stop, Stop.fates, submits]

theorem length_settled (journal : List Deed) :
    (journal.filterMap Deed.settled?).length =
      (journal.filterMap Deed.fate?).count .sent + (journal.filterMap Deed.fate?).count .spooled +
        (journal.filterMap Deed.fate?).count .dropped +
        (journal.filterMap Deed.lost?).length := by
  induction journal with
  | nil => rfl
  | cons d journal ih =>
    cases d <;> simp [Deed.settled?, Deed.fate?, Deed.lost?, List.filterMap_cons, ih] <;> omega

/-- When nothing waits or is under way, the counters and the lost record make up all records. -/
theorem counters_add_up {s : Sender} {xs : List Submission} (sound : s.Sound)
    (located : ∀ x, s.located.count x = xs.count x) (waiting : s.queue.items = [])
    (held : s.held = []) (pending : s.pendingFates = []) :
    s.counters.sent + s.counters.spooled + s.counters.dropped + s.drain.lost.length =
      xs.length := by
  have all : s.located.Perm xs := List.perm_iff_count.mpr located
  have length := all.length_eq
  have lost : s.journal.filterMap Deed.lost? = s.drain.lost := sound.lost
  simp only [Sender.located, waiting, held, List.nil_append, length_settled, lost] at length
  have counted (fate : Fate) :
      s.counters.total fate = (s.journal.filterMap Deed.fate?).count fate := by
    simpa [pending] using sound.counted fate
  rw [← counted .sent, ← counted .spooled, ← counted .dropped] at length
  exact length

theorem deed_eq_spooled {fate : Fate} {sub x : Submission} (h : fate.deed sub = .spooled x) :
    fate = .spooled ∧ sub = x := by
  cases fate with
  | spooled => exact ⟨rfl, Deed.spooled.inj h⟩
  | sent => contradiction
  | dropped => contradiction

theorem Appends.adds_line {s : Sender} {sub : Submission} {spool : Spool}
    (appends : s.Appends sub .spooled spool) :
    ∃ line, Spool.lineOf sub.record.text = .ok line ∧
      spool = { s.spool with
        files := { s.spool.files with spool := .file (s.spool.content ++ line) } } := by
  obtain ⟨-, ⟨-, works⟩ | ⟨other, -⟩⟩ := appends
  · exact Spool.append_adds_line works
  · contradiction

/-- What a step notes as spooled is the line that it has put at the end of the spool's file. -/
theorem step_spooled {s s' : Sender} {e : Event} {x : Submission} (h : s.step e = some s')
    (noted : s'.journal = .spooled x :: s.journal) :
    ∃ line, Spool.lineOf x.record.text = .ok line ∧
      s'.spool = { s.spool with
        files := { s.spool.files with spool := .file (s.spool.content ++ line) } } := by
  cases step_move h with
  | submitSpool _ _ appends =>
    obtain ⟨rfl, rfl⟩ := deed_eq_spooled (List.cons.inj noted).1
    exact appends.adds_line
  | drainSpool _ appends =>
    obtain ⟨rfl, rfl⟩ := deed_eq_spooled (List.cons.inj noted).1
    exact appends.adds_line
  | sweepSpool _ appends =>
    obtain ⟨rfl, rfl⟩ := deed_eq_spooled (List.cons.inj noted).1
    exact appends.adds_line
  | _ => simp [withStage] at noted

theorem step_journal {s s' : Sender} {e : Event} (h : s.step e = some s') :
    s'.journal = s.journal ∨ ∃ deed, s'.journal = deed :: s.journal := by
  cases step_move h with
  | enqueue => exact .inr ⟨_, rfl⟩
  | submitSpool => exact .inr ⟨_, rfl⟩
  | send => exact .inr ⟨_, rfl⟩
  | drainSpool => exact .inr ⟨_, rfl⟩
  | accepted => exact .inr ⟨_, rfl⟩
  | broken => exact .inr ⟨_, rfl⟩
  | offer => exact .inr ⟨_, rfl⟩
  | sweepSpool => exact .inr ⟨_, rfl⟩
  | _ => exact .inl rfl

/-- Whatever a run has noted as spooled was put at the end of the spool's file by one of its
steps. -/
theorem run_spooled {s s' : Sender} {events : List Event} {x : Submission}
    (h : s.run events = some s') (fresh : .spooled x ∉ s.journal)
    (noted : .spooled x ∈ s'.journal) :
    ∃ before e later u u' line, events = before ++ e :: later ∧ s.run before = some u ∧
      u.step e = some u' ∧ Spool.lineOf x.record.text = .ok line ∧
      u'.spool = { u.spool with
        files := { u.spool.files with spool := .file (u.spool.content ++ line) } } := by
  induction events generalizing s with
  | nil =>
    cases Option.some.inj h
    exact absurd noted fresh
  | cons e rest ih =>
    obtain ⟨mid, hstep, hrest⟩ := Option.bind_eq_some_iff.mp h
    by_cases now : .spooled x ∈ mid.journal
    · obtain same | ⟨deed, one⟩ := step_journal hstep
      · exact absurd (same ▸ now) fresh
      · obtain rfl | old := List.mem_cons.mp (one ▸ now)
        · obtain ⟨line, written, file⟩ := step_spooled hstep one
          exact ⟨[], e, rest, s, mid, line, rfl, rfl, hstep, written, file⟩
        · exact absurd old fresh
    · obtain ⟨before, e', later, u, u', line, rfl, runs, steps, written, file⟩ := ih hrest now
      exact ⟨e :: before, e', later, u, u', line, rfl, by rw [run, hstep, Option.bind_some, runs],
        steps, written, file⟩

/-- In every state that a sender comes to, each record that was submitted is in one place and there
once, and no other record is anywhere. A record is lost only in the hands of a drain that broke down
while sending it, every fate is counted, and when stopping ends every record has met its fate. What
is noted as spooled was put at the end of the spool's file, by `step_spooled` and `run_spooled`. -/
theorem run_conserves_records {spool : Spool} {events : List Event} {s : Sender}
    (h : (start spool).run events = some s) :
    (∀ x ∈ submissions 0 events, ∃ p, ∀ q, s.times x q = if q = p then 1 else 0) ∧
    (∀ x, x ∉ submissions 0 events → ∀ q, s.times x q = 0) ∧
    (∀ x, s.times x .lost = if s.drain = .died x then 1 else 0) ∧
    (∀ fate, s.counters.total fate + s.pendingFates.count fate =
      (s.journal.filterMap Deed.fate?).count fate) ∧
    (s.stop = .done → s.queue.items = []) ∧
    (∀ s', s.stop ≠ .done → s.step .stopStep = some s' → s'.stop = .done →
      s'.queue.items = [] ∧ s'.held = [] ∧ s'.pendingFates = [] ∧
        s'.counters.sent + s'.counters.spooled + s'.counters.dropped + s'.drain.lost.length =
          (submissions 0 events).length) := by
  have sound := (run_sound h (start_sound spool)).1
  have located := run_located h
  refine ⟨fun x hx => ?_, fun x hx q => ?_, fun x => ?_, sound.counted, sound.orderly.swept, ?_⟩
  · have one := List.count_eq_one_of_mem (submissions_nodup 0 events) hx
    exact one_place ((located x).trans one)
  · exact no_place ((located x).trans (List.count_eq_zero_of_not_mem hx)) q
  · have lost : s.journal.filterMap Deed.lost? = s.drain.lost := sound.lost
    rw [times, ← count_lost, lost]
    cases hd : s.drain <;> simp [Drain.lost, List.count_cons]
  · intro s' before step after
    have move := step_move step
    have sound' := move_sound move sound
    have submits : s'.submits = [] := by
      cases move with
      | sweepEnds stop => simpa [stop] using sound.orderly.quiet
      | stay stop => exact absurd stop before
      | _ => simp at after
    obtain ⟨waiting, held, pending⟩ := idle_of_stopped sound'.orderly after submits
    refine ⟨waiting, held, pending, counters_add_up sound' (fun x => ?_) waiting held pending⟩
    rw [move_located move sound.numbered, located x]
    rfl

/-- The drain breaks down with the first of three records; stopping appends the second one to the
spool and fails to append the third one. -/
def brokenDrain : List Event :=
  [.submit ⟨"a v=1i"⟩, .submitStep 0, .submitStep 0, .submit ⟨"b v=2i"⟩, .submitStep 1,
    .drainStep, .drainStep, .drainStep, .submitStep 1, .lineAnswer .broken,
    .submit ⟨"c v=3i"⟩, .submitStep 2, .submitStep 2, .stopStep, .stopStep, .replayerWakes,
    .stopStep, .stopStep, .stopStep, .stopStep, .stopStep, .reach false, .stopStep, .stopStep]

theorem brokenDrain_conserves_records :
    ∃ s s', (start {}).run brokenDrain = some s ∧ s.drain = .died ⟨0, ⟨"a v=1i"⟩⟩ ∧
      s.step .stopStep = some s' ∧ s'.stop = .done ∧
      (∀ x ∈ submissions 0 brokenDrain, ∃ p, ∀ q, s.times x q = if q = p then 1 else 0) ∧
      s'.counters.sent + s'.counters.spooled + s'.counters.dropped + s'.drain.lost.length =
        (submissions 0 brokenDrain).length := by
  have all := @run_conserves_records {} brokenDrain _ rfl
  have last := all.2.2.2.2.2 _ (by decide) rfl rfl
  exact ⟨_, _, rfl, rfl, rfl, rfl, all.1, last.2.2.2⟩

end TelemetryRelay.Sender
