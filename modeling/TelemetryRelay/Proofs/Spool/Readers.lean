import TelemetryRelay.Proofs.Spool.Effect

namespace TelemetryRelay.Spool
variable {s : Spool}

/-- What is in the file; nothing if there is no file. -/
def content (s : Spool) : Bytes :=
  match s.files.spool with
  | .file content => content
  | _ => []

theorem content_of_absent (absent : s.files.spool = .absent) : s.content = [] := by
  simp [content, absent]

theorem content_of_file {c : Bytes} (file : s.files.spool = .file c) : s.content = c := by
  simp [content, file]

/-- The next replay offers these lines in batches, whatever the answers to them are. -/
def Offers (s : Spool) (ls : List Bytes) : Prop :=
  ∀ {σ : Type} (send : Bytes → σ → Bool × σ) (t : σ), ∃ batches outcome left,
    Text.IsGrouping s.batchLines ls batches ∧
    (∀ batch ∈ batches, Gzip.decompress (Gzip.compressBatch batch) = some (ofLines batch)) ∧
    s.replay send t = (.ok outcome, left, (answersTo send batches t).2)

/-- No directory is in the way of the temporary file, or there is nothing to replay. -/
def Clear (s : Spool) : Prop :=
  s.files.temporary ≠ .directory ∨ s.content = []

/-- These lines wait, and the next replay that nothing is in the way of offers them. -/
structure Shows (s : Spool) (ls : List Bytes) : Prop where
  pending : s.pending = .ok ls.length
  offered : s.Clear → s.Offers ls

theorem Accessible.file_of_content (h : s.Accessible) :
    (s.files.spool = .absent ∨ s.files.spool = .file []) ∧ s.content = [] ∨
      s.files.spool = .file s.content ∧ s.content ≠ [] := by
  have regular := h.spool
  cases file : s.files.spool with
  | directory => contradiction
  | absent => exact .inl ⟨.inl rfl, content_of_absent file⟩
  | file c =>
    have same := content_of_file file
    by_cases empty : c = []
    · exact .inl ⟨.inr (by rw [empty]), same.trans empty⟩
    · exact .inr ⟨by rw [same], same ▸ empty⟩

theorem Accessible.pending (h : s.Accessible) : s.pending = .ok (lines s.content).length := by
  rcases h.file_of_content with ⟨absent | file, empty⟩ | ⟨file, _⟩
  · simp [Spool.pending, h.names, h.hindrance, absent, empty]
  · simp [Spool.pending, h.names, h.hindrance, file, empty]
  · simp [Spool.pending, h.names, h.hindrance, file]

theorem Accessible.append (h : s.Accessible) {record : String} {line : Bytes}
    (written : lineOf record = .ok line) :
    s.append record =
      (.ok (), { s with files := { s.files with spool := .file (s.content ++ line) } }) := by
  rcases h.file_of_content with ⟨absent | file, empty⟩ | ⟨file, _⟩
  · simp [Spool.append, written, h.names, h.hindrance, absent, empty]
  · simp [Spool.append, written, h.names, h.hindrance, file, empty]
  · simp [Spool.append, written, h.names, h.hindrance, file]

theorem Accessible.offers (h : s.Accessible) (clear : s.Clear) : s.Offers (lines s.content) := by
  intro σ send t
  rcases h.file_of_content with ⟨nothing, empty⟩ | ⟨file, full⟩
  · refine ⟨[], {}, s, ?_, by simp, replay_nothing send h nothing t⟩
    have none_ := Text.groups_isGrouping s.batchLines_pos ([] : List Bytes)
    rwa [Text.groups_nil, ← lines_nil, ← empty] at none_
  · have usable : s.Usable := ⟨h.reachable, h.names, h.spool, clear.resolve_right full⟩
    exact ⟨_, _, _, Text.groups_isGrouping s.batchLines_pos _,
      fun batch _ => decompress_compressBatch batch, replay_file send usable file full t rfl rfl⟩

theorem Accessible.shows (h : s.Accessible) : s.Shows (lines s.content) :=
  ⟨h.pending, h.offers⟩

/-- A directory in the way keeps a replay from beginning, and nothing is touched. -/
theorem Accessible.replay_blocked {σ : Type} (send : Bytes → σ → Bool × σ) (h : s.Accessible)
    (blocked : s.files.temporary = .directory) (t : σ) :
    s.replay send t = (.ok {}, s, t) ∧ s.content = [] ∨
      s.replay send t = (.error .isDirectory, s, t) ∧ s.content ≠ [] := by
  rcases h.file_of_content with ⟨nothing, empty⟩ | ⟨file, full⟩
  · exact .inl ⟨replay_nothing send h nothing t, empty⟩
  · refine .inr ⟨?_, full⟩
    obtain ⟨b, rest, eq⟩ := List.exists_cons_of_ne_nil full
    have opened : s.openForReplay = (.error .isDirectory, s) := by
      rw [eq] at file
      simp only [openForReplay, h.names, h.hindrance, file, blocked]
    simp only [replay, opened]

/-- A replay that works offers all lines, and what it leaves are those of the refused batches. -/
theorem Accessible.replay_eq_ok {σ : Type} {send : Bytes → σ → Bool × σ} (h : s.Accessible)
    {t t' : σ} {outcome : ReplayOutcome} {s' : Spool}
    (replays : s.replay send t = (.ok outcome, s', t')) :
    ∃ batches answers, Text.IsGrouping s.batchLines (lines s.content) batches ∧
      answersTo send batches t = (answers, t') ∧
      outcome = ReplayOutcome.tally {} batches answers ∧
      s'.Accessible ∧ s'.Clear ∧ s'.content = ofLines (answered false batches answers).flatten := by
  rcases h.file_of_content with ⟨nothing, empty⟩ | ⟨file, full⟩
  · rw [replay_nothing send h nothing t] at replays
    obtain ⟨same, left⟩ := Prod.mk.inj replays
    obtain ⟨rfl, rfl⟩ := Prod.mk.inj left
    have none_ := Text.groups_isGrouping s.batchLines_pos ([] : List Bytes)
    rw [Text.groups_nil] at none_
    refine ⟨[], [], ?_, rfl, (Except.ok.inj same).symm, h, .inr empty, empty⟩
    rwa [empty, lines_nil]
  · have free : s.files.temporary ≠ .directory := by
      intro blocked
      rcases h.replay_blocked send blocked t with ⟨_, empty⟩ | ⟨fails, _⟩
      · exact full empty
      · simp [fails] at replays
    have usable : s.Usable := ⟨h.reachable, h.names, h.spool, free⟩
    obtain ⟨batches, groups⟩ : ∃ batches, batches = Text.groups s.batchLines (lines s.content) :=
      ⟨_, rfl⟩
    obtain ⟨answers, left, asked⟩ : ∃ answers left, answersTo send batches t = (answers, left) :=
      ⟨_, _, rfl⟩
    have replayed := replay_file send usable file full t groups asked
    rw [replays] at replayed
    obtain ⟨same, rest⟩ := Prod.mk.inj replayed
    obtain ⟨rfl, rfl⟩ := Prod.mk.inj rest
    refine ⟨batches, answers, groups ▸ Text.groups_isGrouping s.batchLines_pos _, asked,
      Except.ok.inj same, ⟨h.reachable, h.names, ?_⟩, .inl (by simp), ?_⟩
    · by_cases none_ : answered false batches answers = [] <;> simp [none_]
    · by_cases none_ : answered false batches answers = []
      · rw [content_of_absent (if_pos none_), none_]
        rfl
      · rw [content_of_file (if_neg none_)]

end TelemetryRelay.Spool
