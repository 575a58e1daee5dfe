import TelemetryRelay.Proofs.Outcomes
import TelemetryRelay.Proofs.Spool.Conservation
import TelemetryRelay.Proofs.Spool.Keeping
import TelemetryRelay.Proofs.Spool.Readers

namespace TelemetryRelay.Spool

theorem openForReplay_eq_error {s s' : Spool} {e : FileError}
    (h : s.openForReplay = (.error e, s')) :
    s' = s ∨ s' = { s with files := { s.files with temporary := .file [] } } := by
  unfold openForReplay at h
  split at h
  next => exact .inl (Prod.mk.inj h).2.symm
  next => split at h <;> simp_all

theorem replay_eq_error {σ : Type} {send : Bytes → σ → Bool × σ} {s s' : Spool} {t t' : σ}
    {e : FileError} (h : s.replay send t = (.error e, s', t')) :
    t' = t ∧ (s' = s ∨ s' = { s with files := { s.files with temporary := .file [] } }) := by
  unfold replay at h
  split at h
  next e' opened eq =>
    obtain ⟨-, rest⟩ := Prod.mk.inj h
    obtain ⟨rfl, rfl⟩ := Prod.mk.inj rest
    exact ⟨rfl, openForReplay_eq_error eq⟩
  next => simp at h
  next => simp at h

/-- What a call comes to, and the spool with its log afterwards. A call that fails does not end a
run. -/
def Usage.attempt (u : Usage) : Call → Except FileError Unit × Usage
  | .append record =>
    let (answer, spool) := u.spool.append record
    (answer, { u with spool })
  | .replay decide =>
    let (answer, spool, offered) := u.spool.replay (noting decide) u.offered
    (answer.map fun _ => (), { spool, offered })
  | .pending => (u.spool.pending.map fun _ => (), u)
  | .reopen batchLines =>
    match u.spool.reopen batchLines with
    | .ok spool => (.ok (), { u with spool })
    | .error e => (.error e, u)

/-- The spool after calls, whatever they come to. -/
def Usage.attempts (u : Usage) (calls : List Call) : Usage :=
  calls.foldl (fun u call => (u.attempt call).2) u

/-- The line that a call adds to the file: that of an append that works. -/
def Usage.adds (u : Usage) (call : Call) : List Bytes :=
  match (u.attempt call).1 with
  | .ok () => call.line?.toList
  | .error _ => []

/-- The lines that calls add to the file. -/
def Usage.added (u : Usage) : List Call → List Bytes
  | [] => []
  | call :: rest => u.adds call ++ Usage.added (u.attempt call).2 rest

/-- Takes what is in the way of the temporary file away. -/
def Usage.unblock (u : Usage) : Usage :=
  { u with spool := { u.spool with files := { u.spool.files with temporary := .absent } } }

/-- What a failure leaves: the file of the spool and the log of what was offered, and at the place
of the temporary file what was there or an empty file. -/
structure Untouched (u v : Usage) : Prop where
  spool : v.spool.files.spool = u.spool.files.spool
  offered : v.offered = u.offered
  temporary : v.spool.files.temporary = u.spool.files.temporary ∨
    v.spool.files.temporary = .file []

theorem Untouched.refl (u : Usage) : Untouched u u :=
  ⟨rfl, rfl, .inl rfl⟩

theorem attempt_eq_error {u v : Usage} {call : Call} {e : FileError}
    (h : u.attempt call = (.error e, v)) : Untouched u v := by
  cases call with
  | append record =>
    rcases tried : u.spool.append record with ⟨answer, spool⟩
    simp only [Usage.attempt, tried] at h
    obtain ⟨rfl, rfl⟩ := Prod.mk.inj h
    obtain rfl := append_eq_error tried
    exact .refl u
  | replay decide =>
    rcases tried : u.spool.replay (noting decide) u.offered with ⟨answer, spool, offered⟩
    simp only [Usage.attempt, tried] at h
    obtain ⟨fails, rfl⟩ := Prod.mk.inj h
    obtain rfl := map_eq_error_iff.mp fails
    obtain ⟨rfl, rfl | rfl⟩ := replay_eq_error tried
    · exact .refl u
    · exact ⟨rfl, rfl, .inr rfl⟩
  | pending =>
    obtain ⟨-, rfl⟩ := Prod.mk.inj h
    exact .refl u
  | reopen batchLines =>
    cases tried : u.spool.reopen batchLines with
    | ok spool => simp [Usage.attempt, tried] at h
    | error e' =>
      simp only [Usage.attempt, tried] at h
      obtain ⟨-, rfl⟩ := Prod.mk.inj h
      exact .refl u

theorem lineOf_eq_ok {record : String} {line : Bytes} (h : lineOf record = .ok line) :
    line = Utf8.encode (stripped record) ++ [lineFeed] ∧
      (Utf8.encode (stripped record) = [] ∨ IsLine (Utf8.encode (stripped record))) := by
  simp only [lineOf] at h
  split at h
  next => simp at h
  next clean =>
    refine ⟨(Except.ok.inj h).symm, ?_⟩
    have unbroken : (stripped record).toList.any Text.isLineBreak = false := by
      simpa [stripped] using clean
    by_cases blank : (stripped record).toList = []
    · exact .inl (by rw [Utf8.encode_eq, blank]; rfl)
    · exact .inr (oneLine_iff.mpr ⟨blank, unbroken⟩).isLine

/-- A spool that can be reached before and after, with lines added to its file and nothing offered. -/
structure Extends (u v : Usage) (ls : List Bytes) : Prop where
  accessible : v.spool.Accessible
  temporary : v.spool.files.temporary = u.spool.files.temporary
  offered : v.offered = u.offered
  content : v.spool.content = u.spool.content ++ ofLines ls
  lines : ∀ l ∈ ls, l = [] ∨ IsLine l

theorem Extends.refl {u : Usage} (h : u.spool.Accessible) : Extends u u [] :=
  ⟨h, rfl, rfl, by simp [ofLines], by simp⟩

theorem Extends.trans {u v w : Usage} {xs ys : List Bytes} (h : Extends u v xs)
    (h' : Extends v w ys) : Extends u w (xs ++ ys) where
  accessible := h'.accessible
  temporary := h'.temporary.trans h.temporary
  offered := h'.offered.trans h.offered
  content := by rw [h'.content, h.content, ofLines_append, List.append_assoc]
  lines l hl := (List.mem_append.mp hl).elim (h.lines l) (h'.lines l)

/-- A call adds its line or nothing; a replay has to be held up by a directory. -/
theorem attempt_extends {u : Usage} {call : Call} (h : u.spool.Accessible)
    (held : (∀ decide, call ≠ .replay decide) ∨ u.spool.files.temporary = .directory) :
    Extends u (u.attempt call).2 (u.adds call) := by
  cases call with
  | append record =>
    cases written : lineOf record with
    | error e =>
      have fails : u.spool.append record = (.error e, u.spool) := by simp [append, written]
      simpa [Usage.attempt, Usage.adds, fails] using Extends.refl h
    | ok line =>
      obtain ⟨rfl, isLine⟩ := lineOf_eq_ok written
      have appends := h.append written
      have one : u.adds (.append record) = [Utf8.encode (stripped record)] := by
        simp [Usage.attempt, Usage.adds, Call.line?, appends]
      rw [one]
      refine ⟨?_, ?_, rfl, ?_, by simpa using isLine⟩
      · simp only [Usage.attempt, appends]
        exact ⟨h.reachable, h.names, by simp⟩
      · simp only [Usage.attempt, appends]
      · simp only [Usage.attempt, appends]
        rw [content_of_file rfl]
        simp [ofLines]
  | replay decide =>
    have blocked := held.resolve_left fun other => other decide rfl
    rcases h.replay_blocked (noting decide) blocked u.offered with ⟨same, _⟩ | ⟨same, _⟩
    · simpa [Usage.attempt, Usage.adds, Call.line?, Except.map, same] using Extends.refl h
    · simpa [Usage.attempt, Usage.adds, Call.line?, Except.map, same] using Extends.refl h
  | pending =>
    simpa [Usage.attempt, Usage.adds, Call.line?, h.pending, Except.map] using Extends.refl h
  | reopen batchLines =>
    have reopens : u.spool.reopen batchLines =
        .ok { u.spool with batchLines := max batchLines 1, batchLines_pos := by omega } := by
      simp [reopen, h.reachable]
    refine ⟨?_, ?_, ?_, ?_, ?_⟩ <;> simp only [Usage.attempt, Usage.adds, Call.line?, reopens]
    · exact ⟨h.reachable, h.names, h.spool⟩
    · simp [ofLines, content]
    · simp

theorem attempts_extends {u : Usage} (calls : List Call) (h : u.spool.Accessible)
    (held : (∀ decide, .replay decide ∉ calls) ∨ u.spool.files.temporary = .directory) :
    Extends u (u.attempts calls) (u.added calls) := by
  induction calls generalizing u with
  | nil => exact .refl h
  | cons call rest ih =>
    have first : Extends u (u.attempt call).2 (u.adds call) := by
      refine attempt_extends h (held.imp_left fun none_ decide eq => none_ decide ?_)
      simp [eq]
    refine first.trans (ih first.accessible ?_)
    rw [first.temporary]
    exact held.imp_left fun none_ decide mem => none_ decide (by simp [mem])

/-- Runs that go on after failures, from any state of the files. A call that fails leaves the file
of the spool as it was and offers nothing, and at the place of the temporary file it leaves what was
there or an empty file. To count the lines changes nothing. When a directory that was in the way of
the temporary file is gone, the next replay offers the file from before with what was appended: these
are the lines that waited and then all appended ones that are not blank if and only if the file ended
where a line ends, or a blank line was appended first. -/
theorem failures_leave_spool (u : Usage) (calls : List Call) :
    (∀ call e v, (u.attempts calls).attempt call = (.error e, v) →
      Untouched (u.attempts calls) v) ∧
    ((u.attempts calls).attempt .pending).2 = u.attempts calls ∧
    (u.spool.Accessible → u.spool.files.temporary = .directory →
      u.spool.pending = .ok (lines u.spool.content).length ∧
      ∀ later, (∀ decide, .replay decide ∉ later) →
        ∀ added, added = u.added calls ++ (u.attempts calls).unblock.added later →
          ((u.attempts calls).unblock.attempts later).offered = u.offered ∧
          ((u.attempts calls).unblock.attempts later).spool.Offers
            (lines (u.spool.content ++ ofLines added)) ∧
          (lines (u.spool.content ++ ofLines added) =
              lines u.spool.content ++ added.filter (fun line => !line.isEmpty) ↔
            (u.spool.content = [] ∨ u.spool.content.getLast? = some lineFeed) ∨
              ∀ line ∈ added.head?, line = [])) := by
  refine ⟨fun call e v fails => attempt_eq_error fails, rfl, fun accessible blocked => ?_⟩
  refine ⟨accessible.pending, ?_⟩
  rintro later idle added rfl
  have held := attempts_extends calls accessible (.inr blocked)
  have usable : (u.attempts calls).unblock.spool.Accessible :=
    ⟨held.accessible.reachable, held.accessible.names, held.accessible.spool⟩
  have after := attempts_extends later usable (.inl idle)
  have content : ((u.attempts calls).unblock.attempts later).spool.content =
      u.spool.content ++ ofLines (u.added calls ++ (u.attempts calls).unblock.added later) := by
    rw [after.content, ofLines_append, ← List.append_assoc, ← held.content]
    rfl
  have clear : ((u.attempts calls).unblock.attempts later).spool.Clear := by
    refine .inl ?_
    rw [after.temporary]
    simp [Usage.unblock]
  have clean (l : Bytes) (hl : l ∈ u.added calls ++ (u.attempts calls).unblock.added later) :
      l = [] ∨ IsLine l :=
    (List.mem_append.mp hl).elim (held.lines l) (after.lines l)
  refine ⟨after.offered.trans held.offered, ?_, lines_append_ofLines_iff clean⟩
  rw [← content]
  exact after.accessible.offers clear

/-- A file that ends in a line feed, and a directory in the way of the temporary file. -/
def heldFile : Usage where
  spool := ofFiles { spool := .file [0x61, 0x0D, 0x0A, 0x0A], temporary := .directory } 1

/-- A directory at the place of the file. -/
def heldPlace : Usage where
  spool := ofFiles { spool := .directory } 1

theorem heldFile_offered :
    (∃ v, heldPlace.attempt (.replay fun _ _ => true) = (.error .isDirectory, v) ∧
      Untouched heldPlace v ∧ v.spool.files.temporary = .file []) ∧
    heldFile.spool.Accessible ∧ heldFile.spool.files.temporary = .directory ∧
      ((heldFile.attempts [.replay fun _ _ => true, .append "b\r\n", .append "c\nd"]).unblock.attempts
        [.append "", .pending, .append "e"]).spool.Offers [[0x61], [0x62], [0x65]] := by
  have accessible : heldFile.spool.Accessible := ⟨rfl, rfl, by decide⟩
  have untouched := (failures_leave_spool heldPlace []).1 (.replay fun _ _ => true) _ _ rfl
  obtain ⟨_, offered⟩ := (failures_leave_spool heldFile
    [.replay fun _ _ => true, .append "b\r\n", .append "c\nd"]).2.2 accessible rfl
  obtain ⟨_, offers, all⟩ := offered [.append "", .pending, .append "e"] (by simp)
    [[0x62], [], [0x65]] (by decide +kernel)
  refine ⟨⟨_, rfl, untouched, rfl⟩, accessible, rfl, ?_⟩
  rw [all.mpr (.inl (.inr (by decide)))] at offers
  exact offers

/-- A file that ends within a line, and a directory in the way of the temporary file. -/
def heldTornLine : Usage where
  spool := ofFiles { spool := .file [0x61], temporary := .directory } 5000

theorem heldTornLine_runs_on :
    heldTornLine.spool.Accessible ∧ lines heldTornLine.spool.content = [[0x61]] ∧
      (heldTornLine.attempt (.append "b")).1 = .ok () ∧
      ((heldTornLine.attempts [.append "b"]).unblock.attempt (.replay fun _ _ => true)).2.offered =
        [(Gzip.compressBatch [[0x61, 0x62]], true)] :=
  ⟨⟨rfl, rfl, by decide⟩, by decide, by decide +kernel, by decide +kernel⟩

end TelemetryRelay.Spool
