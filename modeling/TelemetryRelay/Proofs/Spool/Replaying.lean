import TelemetryRelay.Proofs.Spool.Lines
import TelemetryRelay.Proofs.Text.Groups
import TelemetryRelay.Spool.Replay

namespace TelemetryRelay

/-- The items whose answer is `answer`. -/
def answered {α : Type} (answer : Bool) (xs : List α) (answers : List Bool) : List α :=
  ((xs.zip answers).filter (·.2 == answer)).map (·.1)

section Answered
variable {α β : Type}

@[simp] theorem answered_nil (answer : Bool) (answers : List Bool) :
    answered answer ([] : List α) answers = [] := by
  simp [answered]

theorem answered_cons (answer a : Bool) (x : α) (xs : List α) (answers : List Bool) :
    answered answer (x :: xs) (a :: answers) =
      if a = answer then x :: answered answer xs answers else answered answer xs answers := by
  by_cases h : a = answer <;> simp [answered, h]

theorem answered_map (answer : Bool) (f : α → β) (xs : List α) (answers : List Bool) :
    answered answer (xs.map f) answers = (answered answer xs answers).map f := by
  induction xs generalizing answers with
  | nil => simp
  | cons x xs ih =>
    cases answers with
    | nil => simp [answered]
    | cons a answers =>
      rw [List.map_cons, answered_cons, answered_cons, ih]
      by_cases h : a = answer <;> simp [h]

theorem answered_sublist (answer : Bool) (xs : List α) (answers : List Bool) :
    (answered answer xs answers).Sublist xs := by
  induction xs generalizing answers with
  | nil => simp
  | cons x xs ih =>
    cases answers with
    | nil => simp [answered]
    | cons a answers =>
      rw [answered_cons]
      split
      · exact (ih answers).cons_cons x
      · exact (ih answers).cons x

end Answered

namespace ReplayOutcome

/-- Counts all batches that were answered. -/
def tally (o : ReplayOutcome) (batches : List (List Bytes)) (answers : List Bool) :
    ReplayOutcome where
  batchesSent := o.batchesSent + (answered true batches answers).length
  batchesFailed := o.batchesFailed + (answered false batches answers).length
  linesSent := o.linesSent + (answered true batches answers).flatten.length
  linesRetained := o.linesRetained + (answered false batches answers).flatten.length

theorem tally_cons (o : ReplayOutcome) (a : Bool) (batch : List Bytes)
    (batches : List (List Bytes)) (answers : List Bool) :
    (o.count a batch.length).tally batches answers = o.tally (batch :: batches) (a :: answers) := by
  cases a <;> simp [tally, count, answered_cons] <;> omega

end ReplayOutcome

namespace Replay

/-- A replay after all batches were answered. -/
def after (r : Replay) (batches : List (List Bytes)) (answers : List Bool) : Replay where
  ahead := []
  refused := (answered false batches answers).reverse ++ r.refused
  outcome := r.outcome.tally batches answers

theorem after_nil {r : Replay} (idle : r.ahead = []) (answers : List Bool) :
    r.after [] answers = r := by
  obtain ⟨ahead, refused, outcome⟩ := r
  obtain rfl : ahead = [] := idle
  simp [after, ReplayOutcome.tally]

theorem answer_after (r : Replay) (a : Bool) (batch : List Bytes) (batches : List (List Bytes))
    (answers : List Bool) :
    ({ r with ahead := [batch] }.answer a).after batches answers =
      r.after (batch :: batches) (a :: answers) := by
  simp only [after, answer, ReplayOutcome.tally_cons, answered_cons]
  cases a <;> simp

/-- To take one answer after the other is to take all of them. -/
theorem foldl_answer {r : Replay} {answers : List Bool} (each : answers.length = r.ahead.length) :
    answers.foldl (fun r accepted => r.answer accepted) r = r.after r.ahead answers := by
  obtain ⟨ahead, refused, outcome⟩ := r
  induction ahead generalizing refused outcome answers with
  | nil =>
    obtain rfl : answers = [] := List.length_eq_zero_iff.mp each
    exact (after_nil rfl []).symm
  | cons batch ahead ih =>
    obtain ⟨a, answers, rfl⟩ := List.exists_cons_of_length_eq_add_one each
    rw [List.foldl_cons, answer, ih _ _ (by simpa using each)]
    exact answer_after ⟨[], refused, outcome⟩ a batch ahead answers

end Replay

namespace Spool
variable {σ : Type}

/-- The answers of a callback to batches that it is offered one after the other. -/
def answersTo (send : Bytes → σ → Bool × σ) : List (List Bytes) → σ → List Bool × σ
  | [], t => ([], t)
  | batch :: rest, t =>
    let (accepted, t) := send (Gzip.compressBatch batch) t
    let (answers, t) := answersTo send rest t
    (accepted :: answers, t)

@[simp] theorem length_answersTo (send : Bytes → σ → Bool × σ) (batches : List (List Bytes))
    (t : σ) : (answersTo send batches t).1.length = batches.length := by
  induction batches generalizing t with
  | nil => rfl
  | cons batch rest ih => simp [answersTo, ih]

theorem answersTo_cons (send : Bytes → σ → Bool × σ) (batch : List Bytes)
    (rest : List (List Bytes)) (t : σ) :
    answersTo send (batch :: rest) t =
      ((send (Gzip.compressBatch batch) t).1 ::
        (answersTo send rest (send (Gzip.compressBatch batch) t).2).1,
        (answersTo send rest (send (Gzip.compressBatch batch) t).2).2) := rfl

theorem flush_eq (send : Bytes → σ → Bool × σ) (r : Reading) (t : σ) :
    r.flush send t =
      ({ replay := { r.replay with ahead := [r.batch.reverse] }.answer
          (send (Gzip.compressBatch r.batch.reverse) t).1 },
        (send (Gzip.compressBatch r.batch.reverse) t).2) := rfl

/-- To read line by line and to offer what has come together is to offer the groups of the lines. -/
theorem takeAll_eq (send : Bytes → σ → Bool × σ) {size : Nat} (pieces : List Bytes)
    {r : Reading} (room : r.batch.length < size) (idle : r.replay.ahead = []) (t : σ)
    {batches : List (List Bytes)} (hb : batches = Text.groups size
      (r.batch.reverse ++ (pieces.map trimLine).filter fun line => !line.isEmpty)) :
    Reading.takeAll send size pieces r t =
      ({ replay := r.replay.after batches (answersTo send batches t).1 },
        (answersTo send batches t).2) := by
  induction pieces generalizing r t batches with
  | nil =>
    simp only [List.map_nil, List.filter_nil, List.append_nil] at hb
    by_cases empty : r.batch = []
    · obtain ⟨batch, replay⟩ := r
      obtain rfl : batch = [] := empty
      simp [Reading.takeAll, hb, answersTo, Replay.after_nil idle]
    · have one : batches = [r.batch.reverse] := by
        rw [hb]
        exact Text.groups_of_length_le (by simpa using Nat.le_of_lt room) (by simpa using empty)
      rw [one, answersTo_cons, ← Replay.answer_after, Replay.after_nil rfl, Reading.takeAll,
        if_neg (by simpa using empty), flush_eq]
      rfl
  | cons piece pieces ih =>
    rw [Reading.takeAll, Reading.take]
    by_cases blank : (trimLine piece).isEmpty = true
    · rw [if_pos blank]
      exact ih room idle t (by simpa [blank] using hb)
    · rw [if_neg blank]
      simp only [List.map_cons, List.filter_cons, blank, Bool.not_false, if_true] at hb
      by_cases full : r.batch.length + 1 = size
      · have first : batches = (trimLine piece :: r.batch).reverse :: Text.groups size
            ((pieces.map trimLine).filter fun line => !line.isEmpty) := by
          have length : (trimLine piece :: r.batch).reverse.length = size := by simpa using full
          rw [hb, List.append_cons, ← List.reverse_cons]
          exact Text.groups_append length (by simp) _
        rw [first, answersTo_cons, ← Replay.answer_after, if_pos (by simpa using full), flush_eq]
        exact ih (r := { replay := _ }) (Nat.zero_lt_of_lt room) rfl _ rfl
      · rw [if_neg (by simpa using full)]
        refine ih (r := { r with batch := trimLine piece :: r.batch }) ?_ idle t (by simpa using hb)
        simp only [List.length_cons]
        omega

/-- A spool whose file can be reached and is no directory. -/
structure Accessible (s : Spool) : Prop where
  reachable : s.files.reachable = true
  names : s.names = {}
  spool : s.files.spool ≠ .directory

theorem Accessible.hindrance {s : Spool} (h : s.Accessible) : s.hindrance none = none := by
  simp [Spool.hindrance, h.reachable]

/-- A spool whose files can be reached and none of which is a directory. -/
structure Usable (s : Spool) : Prop where
  reachable : s.files.reachable = true
  names : s.names = {}
  spool : s.files.spool ≠ .directory
  temporary : s.files.temporary ≠ .directory

theorem Usable.accessible {s : Spool} (h : s.Usable) : s.Accessible :=
  ⟨h.reachable, h.names, h.spool⟩

theorem Usable.hindrance {s : Spool} (h : s.Usable) : s.hindrance none = none :=
  h.accessible.hindrance

theorem Usable.openForReplay {s : Spool} (usable : s.Usable) {content : Bytes}
    (file : s.files.spool = .file content) (full : content ≠ []) :
    s.openForReplay =
      (.ok (some content), { s with files := { s.files with temporary := .file [] } }) := by
  obtain ⟨b, rest, rfl⟩ := List.exists_cons_of_ne_nil full
  have free := usable.temporary
  simp only [Spool.openForReplay, usable.names, usable.hindrance, file]

/-- A replay in one go comes to the same as one that is begun, takes the answers to its batches one
after the other, and is settled. -/
theorem replay_eq_stepped (send : Bytes → σ → Bool × σ) (s : Spool) (t : σ) :
    s.replay send t =
      match s.beginReplay with
      | (.failed e, spool) => (.error e, spool, t)
      | (.nothing, spool) => (.ok {}, spool, t)
      | (.started r, spool) =>
        let last := (answersTo send r.ahead t).1.foldl (fun r accepted => r.answer accepted) r
        (.ok last.outcome, { spool with files := last.settle spool.files },
          (answersTo send r.ahead t).2) := by
  rw [replay, beginReplay]
  rcases s.openForReplay with ⟨e | _ | content, opened⟩
  · rfl
  · rfl
  · have reads := takeAll_eq send (content.splitOn lineFeed) (r := {}) opened.batchLines_pos rfl t rfl
    simp only [reads]
    rw [Replay.foldl_answer (length_answersTo ..)]
    rfl

/-- A replay of a file that is not empty: every batch is offered, and the lines of the refused ones
are the spool afterwards. -/
theorem replay_file (send : Bytes → σ → Bool × σ) {s : Spool} (usable : s.Usable)
    {content : Bytes} (file : s.files.spool = .file content) (full : content ≠ []) (t : σ)
    {batches : List (List Bytes)} (hb : batches = Text.groups s.batchLines (lines content))
    {answers : List Bool} {t' : σ} (ha : answersTo send batches t = (answers, t')) :
    s.replay send t =
      (.ok (ReplayOutcome.tally {} batches answers),
       { s with files :=
          { s.files with
            spool := if answered false batches answers = [] then .absent
              else .file (ofLines (answered false batches answers).flatten)
            temporary := .absent } },
       t') := by
  have begins : s.beginReplay = (.started { ahead := batches },
      { s with files := { s.files with temporary := .file [] } }) := by
    simp only [beginReplay, usable.openForReplay file full, hb]
  have each : answers.length = batches.length := by
    rw [← length_answersTo send batches t, ha]
  rw [replay_eq_stepped, begins]
  simp only [ha]
  rw [Replay.foldl_answer each]
  simp only [Replay.settle, Replay.after, ReplayOutcome.tally, Replay.retained, List.append_nil,
    List.reverse_reverse, Nat.zero_add, List.length_eq_zero_iff]

theorem replay_nothing (send : Bytes → σ → Bool × σ) {s : Spool} (accessible : s.Accessible)
    (empty : s.files.spool = .absent ∨ s.files.spool = .file []) (t : σ) :
    s.replay send t = (.ok {}, s, t) := by
  have opened : s.openForReplay = (.ok none, s) := by
    rcases empty with h | h <;> simp [openForReplay, accessible.names, accessible.hindrance, h]
  simp only [replay, opened]

end Spool
end TelemetryRelay
