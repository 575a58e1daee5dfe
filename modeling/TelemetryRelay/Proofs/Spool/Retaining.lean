import Mathlib.Data.List.Flatten
import Mathlib.Logic.Function.Iterate
import TelemetryRelay.Proofs.Spool.Readers

namespace TelemetryRelay

theorem length_answered {batches : List (List Bytes)} {answers : List Bool}
    (length : answers.length = batches.length) :
    (answered true batches answers).flatten.length +
      (answered false batches answers).flatten.length = batches.flatten.length := by
  induction batches generalizing answers with
  | nil => simp
  | cons batch batches ih =>
    obtain ⟨a, answers, rfl⟩ := List.exists_cons_of_length_eq_add_one length
    have shorter : answers.length = batches.length := by simpa using length
    have rest := ih shorter
    rw [answered_cons, answered_cons]
    cases a <;> simp only [Bool.false_eq_true, Bool.true_eq_false, if_true, if_false,
      List.flatten_cons, List.length_append] <;> omega

theorem answered_of_none {batches : List (List Bytes)} {answers : List Bool}
    (length : answers.length = batches.length) (refused : answered true batches answers = []) :
    answered false batches answers = batches := by
  induction batches generalizing answers with
  | nil => simp
  | cons batch batches ih =>
    obtain ⟨a, answers, rfl⟩ := List.exists_cons_of_length_eq_add_one length
    rw [answered_cons] at refused ⊢
    cases a with
    | true => simp at refused
    | false => simpa using ih (by simpa using length) (by simpa using refused)

namespace Spool
variable {s s' s'' : Spool}

theorem trimLine_eq_self_iff {line : Bytes} (full : line ≠ []) :
    trimLine line = line ↔ line.getLast? ≠ some carriageReturn := by
  unfold trimLine
  split
  next last =>
    have shorter : line.dropLast ≠ line := by
      intro same
      have length := congrArg List.length same
      have pos := List.length_pos_iff.mpr full
      rw [List.length_dropLast] at length
      omega
    simp [last, shorter]
  next last => simp [last]

theorem trimLine_eq_nil_iff {line : Bytes} (full : line ≠ []) :
    trimLine line = [] ↔ line = [carriageReturn] := by
  unfold trimLine
  split
  next last =>
    obtain ⟨front, rfl⟩ := List.getLast?_eq_some_iff.mp last
    simp
  next last =>
    constructor
    · exact fun empty => absurd empty full
    · rintro rfl
      exact absurd rfl last

theorem length_shown_le (ls : List Bytes) : (shown ls).length ≤ ls.length := by
  exact (List.length_filter_le _ _).trans_eq (List.length_map trimLine)

theorem length_shown_eq_iff {ls : List Bytes} (full : ∀ l ∈ ls, l ≠ []) :
    (shown ls).length = ls.length ↔ [carriageReturn] ∉ ls := by
  have kept : (shown ls).length = ls.length ↔ ∀ l ∈ ls, trimLine l ≠ [] := by
    have trimmed : (ls.map trimLine).length = ls.length := List.length_map trimLine
    rw [← trimmed, shown, List.length_filter_eq_length_iff]
    simp
  rw [kept]
  constructor
  · exact fun some_ mem => some_ _ mem rfl
  · intro none_ l hl blank
    rw [trimLine_eq_nil_iff (full l hl)] at blank
    exact none_ (blank ▸ hl)

/-- Lines are seen again as they are unless one ends in a carriage return. -/
theorem shown_eq_self_iff {ls : List Bytes} (full : ∀ l ∈ ls, l ≠ []) :
    shown ls = ls ↔ ∀ l ∈ ls, l.getLast? ≠ some carriageReturn := by
  induction ls with
  | nil => simp
  | cons l ls ih =>
    have first := full l (by simp)
    have rest := ih fun l' hl => full l' (by simp [hl])
    rw [shown_cons, List.forall_mem_cons, ← rest, ← trimLine_eq_self_iff first]
    by_cases blank : trimLine l = []
    · have gone : shown [l] = [] := by simp [shown, blank]
      have short := length_shown_le ls
      rw [gone, blank]
      constructor
      · intro same
        have length := congrArg List.length same
        simp only [List.nil_append, List.length_cons] at length
        omega
      · rintro ⟨same, _⟩
        exact absurd same.symm first
    · have stays : shown [l] = [trimLine l] := by simp [shown, blank]
      rw [stays, List.singleton_append, List.cons.injEq]

theorem ne_nil_of_mem_lines {content line : Bytes} (h : line ∈ lines content) : line ≠ [] := by
  simpa using (List.mem_filter.mp h).2

/-- Replays one after the other, none of which has a batch accepted. -/
inductive Refusals : Nat → Spool → Spool → Prop where
  | none (s : Spool) : Refusals 0 s s
  | next {n : Nat} {s s' s'' : Spool} {σ : Type} {send : Bytes → σ → Bool × σ} {t t' : σ}
      {outcome : ReplayOutcome} (before : Refusals n s s')
      (replays : s'.replay send t = (.ok outcome, s'', t')) (refused : outcome.batchesSent = 0) :
      Refusals (n + 1) s s''

theorem Accessible.refused {σ : Type} {send : Bytes → σ → Bool × σ} {t t' : σ}
    {outcome : ReplayOutcome} (h : s.Accessible)
    (replays : s.replay send t = (.ok outcome, s', t')) (refused : outcome.batchesSent = 0) :
    s'.Accessible ∧ s'.Clear ∧ lines s'.content = shown (lines s.content) := by
  obtain ⟨batches, answers, grouping, asked, rfl, accessible, clear, left⟩ :=
    h.replay_eq_ok replays
  have length : answers.length = batches.length := by
    rw [← length_answersTo send batches t, asked]
  have none_ : answered true batches answers = [] := by simpa [ReplayOutcome.tally] using refused
  rw [answered_of_none length none_, grouping.flatten] at left
  refine ⟨accessible, clear, ?_⟩
  rw [left, lines_ofLines_eq fun l hl => lineFeed_not_mem_lines hl]

/-- Every replay that is refused as a whole reads the lines once more. -/
theorem Refusals.lines_eq {n : Nat} (refusals : Refusals n s s') (h : s.Accessible)
    (clear : s.Clear) :
    s'.Accessible ∧ s'.Clear ∧ lines s'.content = shown^[n] (lines s.content) := by
  induction refusals with
  | none s => exact ⟨h, clear, rfl⟩
  | next before replays refused ih =>
    obtain ⟨accessible, _, seen⟩ := ih h clear
    rw [Function.iterate_succ_apply', ← seen]
    exact accessible.refused replays refused

theorem accessible_of_replay {σ : Type} {send : Bytes → σ → Bool × σ} {t t' : σ}
    {outcome : ReplayOutcome} (named : s.names = {}) (regular : s.files.spool ≠ .directory)
    (replays : s.replay send t = (.ok outcome, s', t')) : s.Accessible ∧ s.Clear := by
  have accessible : s.Accessible := by
    refine ⟨?_, named, regular⟩
    by_contra away
    have opened : s.openForReplay = (.error .notDirectory, s) := by
      simp [openForReplay, named, hindrance, away]
    simp [replay, opened] at replays
  refine ⟨accessible, ?_⟩
  by_cases blocked : s.files.temporary = .directory
  · rcases accessible.replay_blocked send blocked t with ⟨_, empty⟩ | ⟨fails, _⟩
    · exact .inr empty
    · simp [fails] at replays
  · exact .inl blocked

/-- A replay that works, of a file with any bytes and with any answers. The lines that were sent and
those that were retained are the ones that waited before. What waits afterwards, and what the next
replay offers, are the lines of the refused batches with a carriage return taken off the end of
each: the very lines if and only if none of them ends in one, and as many if and only if none is a
carriage return alone. Any number of replays that are refused as a whole read the lines as many times
more, so that they all keep the lines if and only if none of these ends in a carriage return. -/
theorem replay_retains_lines (named : s.names = {}) (regular : s.files.spool ≠ .directory)
    {σ : Type} {send : Bytes → σ → Bool × σ} {t t' : σ} {outcome : ReplayOutcome}
    (replays : s.replay send t = (.ok outcome, s', t')) :
    (∃ batches answers kept,
      Text.IsGrouping s.batchLines (lines s.content) batches ∧
      answersTo send batches t = (answers, t') ∧
      kept = (answered false batches answers).flatten ∧
      s.pending = .ok (outcome.linesSent + outcome.linesRetained) ∧
      outcome.linesRetained = kept.length ∧
      s'.pending = .ok (shown kept).length ∧ s'.Offers (shown kept) ∧
      (shown kept = kept ↔ ∀ line ∈ kept, line.getLast? ≠ some carriageReturn) ∧
      ((shown kept).length = kept.length ↔ [carriageReturn] ∉ kept)) ∧
    (∀ n s'', Refusals n s s'' →
      s''.pending = .ok (shown^[n] (lines s.content)).length ∧
        s''.Offers (shown^[n] (lines s.content))) ∧
    ((∀ n, shown^[n] (lines s.content) = lines s.content) ↔
      ∀ line ∈ lines s.content, line.getLast? ≠ some carriageReturn) := by
  obtain ⟨accessible, clear⟩ := accessible_of_replay named regular replays
  refine ⟨?_, ?_, ?_⟩
  · obtain ⟨batches, answers, grouping, asked, rfl, after, clear', left⟩ :=
      accessible.replay_eq_ok replays
    have length : answers.length = batches.length := by
      rw [← length_answersTo send batches t, asked]
    have inside : ∀ line ∈ (answered false batches answers).flatten, line ∈ lines s.content := by
      rw [← grouping.flatten]
      exact (answered_sublist false batches answers).flatten.subset
    have seen : lines s'.content = shown (answered false batches answers).flatten := by
      rw [left, lines_ofLines_eq fun l hl => lineFeed_not_mem_lines (inside l hl)]
    have full : ∀ line ∈ (answered false batches answers).flatten, line ≠ [] :=
      fun line hl => ne_nil_of_mem_lines (inside line hl)
    have total := length_answered length
    rw [grouping.flatten] at total
    refine ⟨batches, answers, _, grouping, asked, rfl, ?_, ?_, seen ▸ after.pending,
      seen ▸ after.offers clear', shown_eq_self_iff full, length_shown_eq_iff full⟩
    · rw [accessible.pending, ← total]
      simp [ReplayOutcome.tally]
    · simp [ReplayOutcome.tally]
  · intro n s'' refusals
    obtain ⟨after, clear', seen⟩ := refusals.lines_eq accessible clear
    exact ⟨seen ▸ after.pending, seen ▸ after.offers clear'⟩
  · rw [← shown_eq_self_iff fun line hl => ne_nil_of_mem_lines hl]
    exact ⟨fun fixed => fixed 1, fun fixed n => Function.iterate_fixed fixed n⟩

/-- A line that ends in a carriage return and a line feed, one with a carriage return inside, one
that is no text, and one that does not end. -/
def foreignLines : Spool :=
  ofFiles { spool := .file [0x61, 0x0D, 0x0A, 0x0A, 0x62, 0x0D, 0x63, 0x0A, 0xFF, 0x0A, 0x64] } 2

theorem foreignLines_retained :
    foreignLines.names = {} ∧ foreignLines.files.spool ≠ .directory ∧
      foreignLines.replay refuseFirst 0 =
        (.ok { batchesSent := 1, batchesFailed := 1, linesSent := 2, linesRetained := 2 },
          ofFiles { spool := .file [0x61, 0x0A, 0x62, 0x0D, 0x63, 0x0A] } 2, 2) ∧
      foreignLines.pending = .ok 4 ∧
      ∀ n s', Refusals n foreignLines s' →
        s'.pending = .ok 4 ∧ s'.Offers [[0x61], [0x62, 0x0D, 0x63], [0xFF], [0x64]] := by
  have replays : foreignLines.replay refuseFirst 0 =
      (.ok { batchesSent := 1, batchesFailed := 1, linesSent := 2, linesRetained := 2 },
        ofFiles { spool := .file [0x61, 0x0A, 0x62, 0x0D, 0x63, 0x0A] } 2, 2) := by decide +kernel
  have regular : foreignLines.files.spool ≠ .directory := by decide
  obtain ⟨⟨_, _, _, _, _, _, before, _⟩, again, fixed⟩ :=
    replay_retains_lines (s := foreignLines) rfl regular replays
  have seen : lines foreignLines.content = [[0x61], [0x62, 0x0D, 0x63], [0xFF], [0x64]] := by decide
  have same := fixed.mpr (by rw [seen]; decide)
  refine ⟨rfl, regular, replays, before, fun n s' refusals => ?_⟩
  obtain ⟨count, offers⟩ := again n s' refusals
  rw [same n, seen] at count offers
  exact ⟨count, offers⟩

/-- A line with two carriage returns at its end, and nothing else. -/
def doubledReturn : Spool :=
  ofFiles { spool := .file [carriageReturn, carriageReturn, lineFeed] } 5000

/-- Refuses everything. -/
def refuseAll (_ : Bytes) (_ : Unit) : Bool × Unit :=
  (false, ())

/-- One line is retained, and no line is left. -/
theorem doubledReturn_lost :
    doubledReturn.names = {} ∧ doubledReturn.pending = .ok 1 ∧
      ∃ s', doubledReturn.replay refuseAll () =
          (.ok { batchesFailed := 1, linesRetained := 1 }, s', ()) ∧
        s'.pending = .ok 0 ∧ s'.Offers [] := by
  have replays : doubledReturn.replay refuseAll () =
      (.ok { batchesFailed := 1, linesRetained := 1 },
        ofFiles { spool := .file [carriageReturn, lineFeed] } 5000, ()) := by decide +kernel
  have blank : lines (ofFiles { spool := .file [carriageReturn, lineFeed] } 5000).content = [] := by
    decide
  have accessible : (ofFiles { spool := .file [carriageReturn, lineFeed] } 5000).Accessible :=
    ⟨rfl, rfl, by decide⟩
  exact ⟨rfl, by decide, _, replays, by decide, blank ▸ accessible.offers (.inl (by decide))⟩

end Spool
end TelemetryRelay
