import TelemetryRelay.Proofs.Spool.Readers

namespace TelemetryRelay.Spool

/-- A spool whose file has these lines and nothing else; without any line it may be missing. -/
structure Keeps (s : Spool) (ls : List Bytes) : Prop where
  file : s.files.spool = .file (ofLines ls) ∨ s.files.spool = .absent ∧ ls = []
  lines : ∀ l ∈ ls, IsLine l

variable {s spool : Spool} {ls : List Bytes}

theorem Keeps.of_same_file (h : s.Keeps ls) (same : spool.files.spool = s.files.spool) :
    spool.Keeps ls :=
  ⟨same ▸ h.file, h.lines⟩

theorem ofLines_append (xs ys : List Bytes) : ofLines (xs ++ ys) = ofLines xs ++ ofLines ys := by
  simp [ofLines]

theorem append_eq_error {record : String} {e : FileError}
    (h : s.append record = (.error e, spool)) : spool = s := by
  unfold append at h
  split at h
  next => exact (Prod.mk.inj h).2.symm
  next =>
    split at h
    next => exact (Prod.mk.inj h).2.symm
    next =>
      split at h
      next => exact (Prod.mk.inj h).2.symm
      next => simp at h
      next => simp at h

/-- An append that works puts the line of the record behind what was in the file, and nothing else
changes. -/
theorem append_adds_line {record : String} (works : s.append record = (.ok (), spool)) :
    ∃ line, lineOf record = .ok line ∧
      spool = { s with files := { s.files with spool := .file (s.content ++ line) } } := by
  unfold append at works
  split at works
  next => simp at works
  next line written =>
    refine ⟨line, written, ?_⟩
    split at works
    next => simp at works
    next =>
      split at works
      next => simp at works
      next absent =>
        rw [← (Prod.mk.inj works).2, content_of_absent absent]
        rfl
      next content file => rw [← (Prod.mk.inj works).2, content_of_file file]

theorem Keeps.content (h : s.Keeps ls) : s.content = ofLines ls := by
  rcases h.file with file | ⟨absent, rfl⟩
  · exact content_of_file file
  · rw [content_of_absent absent]
    rfl

theorem Keeps.append (h : s.Keeps ls) {record : String} {line : Bytes} (isLine : IsLine line)
    (written : lineOf record = .ok (line ++ [lineFeed]))
    (appends : s.append record = (.ok (), spool)) : spool.Keeps (ls ++ [line]) := by
  obtain ⟨_, same, rfl⟩ := append_adds_line appends
  cases written.symm.trans same
  refine ⟨.inl ?_, fun l hl => ?_⟩
  · rw [h.content, ofLines_append]
    simp [ofLines]
  · rcases List.mem_append.mp hl with old | new
    · exact h.lines l old
    · rw [List.mem_singleton.mp new]
      exact isLine

theorem openForReplay_file (s : Spool) : s.openForReplay.2.files.spool = s.files.spool := by
  unfold openForReplay
  split
  next => rfl
  next => split <;> simp_all

theorem openForReplay_eq_some {content : Bytes}
    (h : s.openForReplay = (.ok (some content), spool)) : s.files.spool = .file content := by
  unfold openForReplay at h
  split at h
  next => simp at h
  next => split at h <;> simp_all

/-- Beginning a replay leaves the file as it is, whatever it comes to. -/
theorem beginReplay_file {b : Beginning} (h : s.beginReplay = (b, spool)) :
    spool.files.spool = s.files.spool := by
  have kept := s.openForReplay_file
  unfold beginReplay at h
  split at h
  next e opened eq => rw [← (Prod.mk.inj h).2, ← kept, eq]
  next opened eq => rw [← (Prod.mk.inj h).2, ← kept, eq]
  next content opened eq => rw [← (Prod.mk.inj h).2, ← kept, eq]

theorem Keeps.beginReplay (h : s.Keeps ls) {r : Replay}
    (begins : s.beginReplay = (.started r, spool)) :
    ∃ size, r = { ahead := Text.groups size ls } := by
  unfold Spool.beginReplay at begins
  split at begins
  next => simp at begins
  next => simp at begins
  next content opened eq =>
    have file := openForReplay_eq_some eq
    refine ⟨opened.batchLines, ?_⟩
    rcases h.file with kept | ⟨absent, _⟩
    · obtain rfl : ofLines ls = content := by simpa [kept] using file
      rw [lines_ofLines h.lines] at begins
      simpa using (Prod.mk.inj begins).1.symm
    · simp [absent] at file

theorem Keeps.pending (h : s.Keeps ls) (seen : s.hindrance s.names.lookup = none) :
    s.pending = .ok ls.length := by
  rcases h.file with file | ⟨absent, rfl⟩
  · simp [Spool.pending, seen, file, lines_ofLines h.lines]
  · simp [Spool.pending, seen, absent]

end TelemetryRelay.Spool
