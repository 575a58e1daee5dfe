import Mathlib.Algebra.GroupWithZero.Nat
import TelemetryRelay.Proofs.Record.SingleLine
import TelemetryRelay.Proofs.Sender.Routing
import TelemetryRelay.Proofs.Spool.Keeping

namespace TelemetryRelay.Sender
open Spool (remaining)

/-- The line that a deed adds to the spool. -/
def Deed.line? : Deed → Option Bytes
  | .spooled sub => some sub.record.bytes
  | _ => none

/-- The batch that a deed takes out of the spool. -/
def Deed.accepted? : Deed → Option (List Bytes)
  | .offered batch true => some batch
  | _ => none

/-- The lines that were appended to the spool, in order. -/
def spooledLines (s : Sender) : List Bytes :=
  noted Deed.line? s.journal

/-- The batches that were accepted, in order. -/
def acceptedBatches (s : Sender) : List (List Bytes) :=
  noted Deed.accepted? s.journal

theorem length_spooledLines (s : Sender) :
    s.spooledLines.length = (s.journal.filterMap Deed.fate?).count .spooled := by
  rw [spooledLines, noted, List.length_reverse]
  induction s.journal with
  | nil => rfl
  | cons d journal ih => cases d <;> simp [Deed.line?, Deed.fate?, List.filterMap_cons, ih]

/-- A replay under way: of the lines that are left the refused ones come first and then those
ahead. -/
structure Underway (r : Replay) (left : List (Bytes × Nat))
    (taken : List (List (Bytes × Nat))) : Prop where
  parts : ∃ refused ahead : List (List (Bytes × Nat)), r.refused = refused.map (List.map (·.1)) ∧
    r.ahead = ahead.map (List.map (·.1)) ∧ left = refused.reverse.flatten ++ ahead.flatten
  sent : r.outcome.linesSent = taken.flatten.length
  failed : r.outcome.batchesFailed = r.refused.length

/-- The spool of a sender that ever had these lines, each with its number. The batches `settled` are
those of replays that are over, and `taken` those of the replay under way; as long as this one is
not over, its lines are in the file. -/
structure Accounted (s : Sender) (texts : List Bytes)
    (settled taken : List (List (Bytes × Nat))) : Prop where
  once : (settled ++ taken).flatten.Nodup
  known : ∀ r ∈ (settled ++ taken).flatten, r ∈ texts.zipIdx
  batches : s.acceptedBatches = (settled ++ taken).map fun batch => batch.map (·.1)
  kept : s.spool.Keeps ((remaining texts.zipIdx settled).map (·.1))
  counted : settled.flatten.length = s.counters.replayed + (s.uncounted.map (·.2)).sum
  underway : ∀ owner r, s.replaying = some (owner, r) →
    Underway r (remaining texts.zipIdx (settled ++ taken)) taken
  idle : s.replaying = none → taken = []

section Steps
variable {s s' : Sender} {texts : List Bytes} {settled taken : List (List (Bytes × Nat))}

/-- What neither touches the spool nor counts what was replayed keeps the account. -/
theorem Accounted.of_same (inv : Accounted s texts settled taken)
    (file : s'.spool.files.spool = s.spool.files.spool)
    (batches : s'.acceptedBatches = s.acceptedBatches)
    (replayed : s'.counters.replayed = s.counters.replayed)
    (uncounted : s'.uncounted = s.uncounted) (replaying : s'.replaying = s.replaying) :
    Accounted s' texts settled taken where
  once := inv.once
  known := inv.known
  batches := batches.trans inv.batches
  kept := inv.kept.of_same_file file
  counted := by rw [replayed, uncounted]; exact inv.counted
  underway owner r h := inv.underway owner r (replaying ▸ h)
  idle h := inv.idle (replaying ▸ h)

/-- A line that is appended between two replays is left. -/
theorem Accounted.appendLine (inv : Accounted s texts settled taken) (free : s.replaying = none)
    {line : Bytes} (kept : s'.spool.Keeps ((remaining texts.zipIdx settled).map (·.1) ++ [line]))
    (batches : s'.acceptedBatches = s.acceptedBatches)
    (replayed : s'.counters.replayed = s.counters.replayed)
    (uncounted : s'.uncounted = s.uncounted) (replaying : s'.replaying = s.replaying) :
    Accounted s' (texts ++ [line]) settled taken where
  once := inv.once
  known r hr := by
    rw [List.zipIdx_append]
    exact List.mem_append_left _ (inv.known r hr)
  batches := batches.trans inv.batches
  kept := by
    have fresh : (line, texts.length) ∉ settled.flatten := fun hm => by
      have bound := List.snd_lt_of_mem_zipIdx
        (inv.known _ (by rw [List.flatten_append]; exact List.mem_append_left _ hm))
      simp at bound
    have left : remaining (texts ++ [line]).zipIdx settled =
        remaining texts.zipIdx settled ++ [(line, texts.length)] := by
      rw [List.zipIdx_append]
      simpa using Spool.remaining_concat fresh
    rw [left, List.map_append]
    exact kept
  counted := by rw [replayed, uncounted]; exact inv.counted
  underway owner r h := by simp [replaying, free] at h
  idle _ := inv.idle free

theorem Accounted.begin (inv : Accounted s texts settled taken) (free : s.replaying = none)
    {owner : Owner} {r : Replay} {spool : Spool} (begins : s.spool.beginReplay = (.started r, spool))
    {replayer : Replayer} :
    Accounted { s with spool, replaying := some (owner, r), replayer } texts settled taken where
  once := inv.once
  known := inv.known
  batches := inv.batches
  kept := inv.kept.of_same_file (Spool.beginReplay_file begins)
  counted := inv.counted
  underway owner' r' h := by
    obtain ⟨-, rfl⟩ := Prod.mk.inj (Option.some.inj h)
    obtain rfl : taken = [] := inv.idle free
    obtain ⟨size, rfl⟩ := inv.kept.beginReplay begins
    refine ⟨⟨[], Text.groups size (remaining texts.zipIdx settled), rfl, ?_, ?_⟩, rfl, rfl⟩
    · exact Text.groups_map _ _ _
    · simp [Text.flatten_groups]
  idle h := by simp at h

theorem Accounted.offer (inv : Accounted s texts settled taken) {owner : Owner} {r : Replay}
    {batch : List Bytes} {rest : List (List Bytes)} (replaying : s.replaying = some (owner, r))
    (ahead : r.ahead = batch :: rest) (accepted : Bool) :
    ∃ taken', taken <+: taken' ∧
      Accounted { s with
        replaying := some (owner, r.answer accepted)
        journal := .offered batch accepted :: s.journal } texts settled taken' := by
  obtain ⟨⟨refused, groups, hrefused, hgroups, left⟩, sent, failed⟩ :=
    inv.underway owner r replaying
  obtain ⟨group, groups, rfl⟩ : ∃ group groups', groups = group :: groups' := by
    cases groups with
    | nil => simp [ahead] at hgroups
    | cons group groups' => exact ⟨group, groups', rfl⟩
  obtain ⟨rfl, rfl⟩ : batch = group.map (·.1) ∧ rest = groups.map (List.map (·.1)) := by
    simpa [ahead] using hgroups
  cases accepted with
  | false =>
    refine ⟨taken, List.prefix_rfl, inv.once, inv.known, inv.batches, inv.kept, inv.counted, ?_,
      fun h => by simp at h⟩
    intro owner' r' h
    obtain ⟨-, rfl⟩ := Prod.mk.inj (Option.some.inj h)
    constructor
    · refine ⟨group :: refused, groups, ?_, ?_, ?_⟩
      · simp [Replay.answer, ahead, hrefused]
      · simp [Replay.answer, ahead]
      · simp [left]
    · simpa [Replay.answer, ahead, ReplayOutcome.count] using sent
    · simp [Replay.answer, ahead, ReplayOutcome.count, failed]
  | true =>
    have nodup := Spool.zipIdx_nodup texts
    simp only [List.flatten_cons] at left
    -- The batch is among the lines that no accepted batch has had.
    have inside (x : Bytes × Nat) (hx : x ∈ group) :
        x ∈ texts.zipIdx ∧ x ∉ (settled ++ taken).flatten := by
      have mem : x ∈ remaining texts.zipIdx (settled ++ taken) := by
        rw [left]
        simp [hx]
      simpa [remaining] using mem
    have all : (settled ++ (taken ++ [group])).flatten = (settled ++ taken).flatten ++ group := by
      simp
    refine ⟨taken ++ [group], List.prefix_append _ _, ?_, ?_, ?_, inv.kept, inv.counted, ?_,
      fun h => by simp at h⟩
    · rw [all]
      refine List.nodup_append.mpr ⟨inv.once, ?_, ?_⟩
      · have distinct : (remaining texts.zipIdx (settled ++ taken)).Nodup := nodup.filter _
        rw [left] at distinct
        exact (List.nodup_append.mp (List.nodup_append.mp distinct).2.1).1
      · rintro x hx y hy rfl
        exact (inside x hy).2 hx
    · intro x hx
      rw [all] at hx
      exact (List.mem_append.mp hx).elim (inv.known x) fun hg => (inside x hg).1
    · have batches := inv.batches
      simp only [acceptedBatches] at batches
      simp [acceptedBatches, Deed.accepted?, batches]
    · intro owner' r' h
      obtain ⟨-, rfl⟩ := Prod.mk.inj (Option.some.inj h)
      constructor
      · refine ⟨refused, groups, ?_, ?_, ?_⟩
        · simpa [Replay.answer, ahead] using hrefused
        · simp [Replay.answer, ahead]
        · rw [← List.append_assoc]
          exact Spool.remaining_accept nodup left
      · simp [Replay.answer, ahead, ReplayOutcome.count, sent]
      · simpa [Replay.answer, ahead, ReplayOutcome.count] using failed

theorem Accounted.settle (inv : Accounted s texts settled taken) {owner : Owner} {r : Replay}
    (replaying : s.replaying = some (owner, r)) (ahead : r.ahead = []) :
    Accounted { s with
      spool := { s.spool with files := r.settle s.spool.files }
      replaying := none
      uncounted := (owner, r.outcome.linesSent) :: s.uncounted } texts (settled ++ taken) [] := by
  obtain ⟨⟨refused, groups, hrefused, hgroups, left⟩, sent, failed⟩ :=
    inv.underway owner r replaying
  obtain rfl : groups = [] := by simpa [ahead] using hgroups
  have kept : r.retained = (remaining texts.zipIdx (settled ++ taken)).map (·.1) := by
    simp [Replay.retained, hrefused, left, List.map_flatten]
  refine ⟨by simpa using inv.once, by simpa using inv.known,
    by rw [List.append_nil]; exact inv.batches, ?_, ?_,
    fun _ _ h => by simp at h, fun _ => rfl⟩
  · refine ⟨?_, fun l hl => ?_⟩
    · by_cases none_ : r.outcome.batchesFailed = 0
      · have empty : r.refused = [] := List.length_eq_zero_iff.mp (failed ▸ none_)
        right
        rw [← kept]
        simp [Replay.settle, none_, Replay.retained, empty]
      · left
        simp [Replay.settle, none_, kept]
    · obtain ⟨x, hx, rfl⟩ := List.mem_map.mp hl
      rw [Spool.remaining_append] at hx
      exact inv.kept.lines _ (List.mem_map_of_mem (List.mem_filter.mp hx).1)
  · have counted := inv.counted
    simp only [List.flatten_append, List.length_append, List.map_cons, List.sum_cons, sent]
    omega

theorem Accounted.count (inv : Accounted s texts settled taken) {owner : Owner} {lines : Nat}
    (mem : (owner, lines) ∈ s.uncounted) {replayer : Replayer} :
    Accounted { s with
      uncounted := s.uncounted.erase (owner, lines)
      counters := { s.counters with replayed := s.counters.replayed + lines }
      replayer } texts settled taken where
  once := inv.once
  known := inv.known
  batches := inv.batches
  kept := inv.kept
  counted := by
    have counted := inv.counted
    have sum := ((List.perm_cons_erase mem).map (·.2)).sum_nat
    simp only [List.map_cons, List.sum_cons] at sum ⊢
    omega
  underway := inv.underway
  idle := inv.idle

/-- An append adds the line of the record if it works, and nothing if it does not. -/
theorem Accounted.append {initial : List Bytes}
    (inv : Accounted s (initial ++ s.spooledLines) settled taken) {sub : Submission} {fate : Fate}
    {spool : Spool} (appends : s.Appends sub fate spool) (single : sub.record.SingleLine)
    (file : s'.spool = spool) (journal : s'.journal = fate.deed sub :: s.journal)
    (replayed : s'.counters.replayed = s.counters.replayed)
    (uncounted : s'.uncounted = s.uncounted) (replaying : s'.replaying = s.replaying) :
    Accounted s' (initial ++ s'.spooledLines) settled taken := by
  have batches : s'.acceptedBatches = s.acceptedBatches := by
    cases fate <;> simp [acceptedBatches, journal, Fate.deed, Deed.accepted?]
  obtain ⟨free, ⟨rfl, works⟩ | ⟨rfl, e, fails⟩⟩ := appends
  · have lines : s'.spooledLines = s.spooledLines ++ [sub.record.bytes] := by
      simp [spooledLines, journal, Fate.deed, Deed.line?]
    rw [lines, ← List.append_assoc]
    have kept := inv.kept.append single.isLine single.lineOf works
    exact inv.appendLine free (file ▸ kept) batches replayed uncounted replaying
  · have lines : s'.spooledLines = s.spooledLines := by
      simp [spooledLines, journal, Fate.deed, Deed.line?]
    rw [lines]
    have same : spool = s.spool := Spool.append_eq_error fails
    exact inv.of_same (by rw [file, same]) batches replayed uncounted replaying

end Steps

theorem replayed_count (c : Counters) (fate : Fate) : (c.count fate).replayed = c.replayed := by
  cases fate <;> rfl

/-- Every move keeps the account, and the accepted batches stay as they are but for one more. -/
theorem move_accounted {s s' : Sender} {e : Event} {initial : List Bytes}
    {settled taken : List (List (Bytes × Nat))} (move : Move s e s')
    (single : ∀ x ∈ s.located, x.record.SingleLine)
    (inv : Accounted s (initial ++ s.spooledLines) settled taken) :
    ∃ settled' taken', settled ++ taken <+: settled' ++ taken' ∧
      Accounted s' (initial ++ s'.spooledLines) settled' taken' := by
  have held {x : Submission} (hx : x ∈ s.held) : x.record.SingleLine :=
    single x (List.mem_append_left _ (List.mem_append_right _ hx))
  cases move with
  | @submitSpool call fate spool mem stage appends =>
    have mine : call.submission ∈ s.held := by
      apply List.mem_append_right
      exact List.mem_flatMap.mpr ⟨call, mem, by simp [SubmitCall.held, stage]⟩
    exact ⟨settled, taken, List.prefix_rfl,
      inv.append appends (held mine) rfl rfl rfl rfl rfl⟩
  | @drainSpool sub fate spool drain appends =>
    have mine : sub ∈ s.held := by simp [Sender.held, drain, Drain.held]
    exact ⟨settled, taken, List.prefix_rfl,
      inv.append appends (held mine) rfl rfl rfl rfl rfl⟩
  | @sweepSpool sub fate spool stop appends =>
    have mine : sub ∈ s.held := by simp [Sender.held, stop, Stop.held]
    exact ⟨settled, taken, List.prefix_rfl,
      inv.append appends (held mine) rfl rfl rfl rfl rfl⟩
  | submitCount =>
    exact ⟨settled, taken, List.prefix_rfl, inv.of_same rfl rfl (replayed_count _ _) rfl rfl⟩
  | drainCount =>
    exact ⟨settled, taken, List.prefix_rfl, inv.of_same rfl rfl (replayed_count _ _) rfl rfl⟩
  | sweepCount =>
    exact ⟨settled, taken, List.prefix_rfl, inv.of_same rfl rfl (replayed_count _ _) rfl rfl⟩
  | replayBegins free _ begins => exact ⟨settled, taken, List.prefix_rfl, inv.begin free begins⟩
  | replayFails _ _ begins =>
    exact ⟨settled, taken, List.prefix_rfl,
      inv.of_same (Spool.beginReplay_file begins) rfl rfl rfl rfl⟩
  | @offer _ _ _ _ accepted replaying ahead =>
    obtain ⟨taken', grows, inv'⟩ := inv.offer replaying ahead accepted
    exact ⟨settled, taken', (List.prefix_append_right_inj settled).mpr grows, inv'⟩
  | settle replaying ahead =>
    exact ⟨settled ++ taken, [], by simp, inv.settle replaying ahead⟩
  | countReplay mem => exact ⟨settled, taken, List.prefix_rfl, inv.count mem⟩
  | _ => exact ⟨settled, taken, List.prefix_rfl, inv.of_same rfl rfl rfl rfl rfl⟩

end TelemetryRelay.Sender
