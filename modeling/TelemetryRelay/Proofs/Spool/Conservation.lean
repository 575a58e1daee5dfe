import Mathlib.Data.List.Flatten
import Mathlib.Data.List.Nodup
import TelemetryRelay.Proofs.Spool.Replaying
import TelemetryRelay.Proofs.Text.Encoding

namespace TelemetryRelay.Spool

/-- A record without the line breaks at its end. -/
def stripped (record : String) : String :=
  String.ofList (Text.dropTrailing Text.isLineBreak record.toList)

/-- A record that makes one line: without the line breaks at its end it is not empty, and there are
none inside. -/
structure OneLine (record : String) : Prop where
  ne_nil : (stripped record).toList ≠ []
  no_break : ∀ c ∈ (stripped record).toList, Text.isLineBreak c = false

theorem oneLine_iff {record : String} : OneLine record ↔
    (stripped record).toList ≠ [] ∧ (stripped record).toList.any Text.isLineBreak = false := by
  rw [List.any_eq_false]
  simp only [Bool.not_eq_true]
  exact ⟨fun h => ⟨h.ne_nil, h.no_break⟩, fun h => ⟨h.1, h.2⟩⟩

theorem OneLine.lineOf {record : String} (h : OneLine record) :
    lineOf record = .ok (Utf8.encode (stripped record) ++ [lineFeed]) := by
  have none_ : (Text.dropTrailing Text.isLineBreak record.toList).any Text.isLineBreak = false := by
    simpa [stripped] using (oneLine_iff.mp h).2
  simp [Spool.lineOf, none_, stripped]

theorem OneLine.not_mem {record : String} (h : OneLine record) {b : UInt8} (small : b.toNat < 0x80)
    (breaks : Text.isLineBreak (Char.ofNat b.toNat) = true) :
    b ∉ Utf8.encode (stripped record) := by
  intro mem
  have plain := h.no_break _ (Utf8.mem_of_mem_encode mem small)
  rw [breaks] at plain
  contradiction

theorem OneLine.isLine {record : String} (h : OneLine record) :
    IsLine (Utf8.encode (stripped record)) where
  ne_nil := Utf8.encode_ne_nil h.ne_nil
  no_feed := h.not_mem (by decide) (by decide)
  no_return last := h.not_mem (by decide) (by decide) (List.mem_of_getLast? last)

/-- A call on a spool. A replay's callback may decide by everything that was offered before. -/
inductive Call where
  | append (record : String)
  | replay (decide : List (Bytes × Bool) → Bytes → Bool)
  | pending
  | reopen (batchLines : Nat)

/-- A spool with all batches that it has offered and their answers, the earliest first. -/
structure Usage where
  spool : Spool
  offered : List (Bytes × Bool) := []

/-- Answers to a batch and notes the answer. -/
def noting (decide : List (Bytes × Bool) → Bytes → Bool) (batch : Bytes)
    (offered : List (Bytes × Bool)) : Bool × List (Bytes × Bool) :=
  (decide offered batch, offered ++ [(batch, decide offered batch)])

/-- Carries out a call; a call that fails ends the run. -/
def Usage.perform (u : Usage) : Call → Except FileError Usage
  | .append record =>
    match u.spool.append record with
    | (.ok (), spool) => .ok { u with spool }
    | (.error e, _) => .error e
  | .replay decide =>
    match u.spool.replay (noting decide) u.offered with
    | (.ok _, spool, offered) => .ok { spool, offered }
    | (.error e, _) => .error e
  | .pending => u.spool.pending.map fun _ => u
  | .reopen batchLines => (u.spool.reopen batchLines).map fun spool => { u with spool }

/-- The line that a call appends, as it stands before its line feed. -/
def Call.line? : Call → Option Bytes
  | .append record => some (Utf8.encode (stripped record))
  | _ => none

/-- The lines that calls append, each with its number. -/
def appended (calls : List Call) : List (Bytes × Nat) :=
  (calls.filterMap Call.line?).zipIdx

theorem answersTo_noting (decide : List (Bytes × Bool) → Bytes → Bool)
    (batches : List (List Bytes)) (offered : List (Bytes × Bool)) :
    (answersTo (noting decide) batches offered).2 =
      offered ++ (batches.map Gzip.compressBatch).zip
        (answersTo (noting decide) batches offered).1 := by
  induction batches generalizing offered with
  | nil => simp [answersTo]
  | cons batch rest ih => simp [answersTo, noting, ih]

/-- The batches of a log that were accepted. -/
def acceptedOf (offered : List (Bytes × Bool)) : List Bytes :=
  (offered.filter (·.2)).map (·.1)

theorem acceptedOf_append (xs ys : List (Bytes × Bool)) :
    acceptedOf (xs ++ ys) = acceptedOf xs ++ acceptedOf ys := by
  simp [acceptedOf]

theorem acceptedOf_zip (batches : List Bytes) (answers : List Bool) :
    acceptedOf (batches.zip answers) = answered true batches answers := by
  simp [acceptedOf, answered]

/-- The records that are in no accepted batch. -/
def remaining (records : List (Bytes × Nat)) (accepted : List (List (Bytes × Nat))) :
    List (Bytes × Nat) :=
  records.filter (· ∉ accepted.flatten)

/-- A record that is in no accepted batch is left. -/
theorem remaining_concat {records : List (Bytes × Nat)} {accepted : List (List (Bytes × Nat))}
    {r : Bytes × Nat} (outside : r ∉ accepted.flatten) :
    remaining (records ++ [r]) accepted = remaining records accepted ++ [r] := by
  simp only [remaining, List.filter_append, List.filter_cons, List.filter_nil, outside,
    not_false_eq_true, decide_true, ↓reduceIte]

/-- Of items that are all different, those outside the accepted groups are those in the refused
groups. -/
theorem remaining_groups {groups : List (List (Bytes × Nat))} {answers : List Bool}
    (nodup : groups.flatten.Nodup) (length : answers.length = groups.length) :
    remaining groups.flatten (answered true groups answers) =
      (answered false groups answers).flatten := by
  induction groups generalizing answers with
  | nil => simp [remaining]
  | cons group groups ih =>
    obtain ⟨a, answers, rfl⟩ := List.exists_cons_of_length_eq_add_one length
    simp only [List.flatten_cons] at nodup
    obtain ⟨_, rest, apart⟩ := List.nodup_append.mp nodup
    have ih := ih rest (by simpa using length)
    simp only [remaining, List.flatten_cons, List.filter_append, answered_cons] at ih ⊢
    cases a with
    | true =>
      have taken : group.filter (· ∉ group ++ (answered true groups answers).flatten) = [] := by
        simp +contextual [List.filter_eq_nil_iff]
      have same : groups.flatten.filter (· ∉ group ++ (answered true groups answers).flatten) =
          groups.flatten.filter (· ∉ (answered true groups answers).flatten) := by
        apply List.filter_congr
        intro x hx
        have outside : x ∉ group := fun hg => apart x hg x hx rfl
        simp [outside]
      simp only [↓reduceIte, Bool.true_eq_false, List.flatten_cons]
      rw [taken, same, List.nil_append]
      exact ih
    | false =>
      have kept : group.filter (· ∉ (answered true groups answers).flatten) = group := by
        apply List.filter_eq_self.mpr
        intro x hx
        exact decide_eq_true fun hm => apart x hx x ((answered_sublist ..).flatten.subset hm) rfl
      simp only [↓reduceIte, Bool.false_eq_true, List.flatten_cons]
      rw [kept, ih]

/-- What a spool holds between calls: of the records so far those in no accepted batch. -/
structure Holds (u : Usage) (records : List (Bytes × Nat))
    (accepted : List (List (Bytes × Nat))) : Prop where
  nodup : records.Nodup
  lines : ∀ r ∈ records, IsLine r.1
  once : accepted.flatten.Nodup
  known : ∀ r ∈ accepted.flatten, r ∈ records
  batches : acceptedOf u.offered = accepted.map fun batch => Gzip.compressBatch (batch.map (·.1))
  names : u.spool.names = {}
  reachable : u.spool.files.reachable = true
  file : u.spool.files.spool = if remaining records accepted = [] then .absent
    else .file (ofLines ((remaining records accepted).map (·.1)))
  temporary : u.spool.files.temporary = .absent

section Steps
variable {u : Usage} {records : List (Bytes × Nat)} {accepted : List (List (Bytes × Nat))}

theorem Holds.usable (h : Holds u records accepted) : u.spool.Usable where
  reachable := h.reachable
  names := h.names
  spool := by rw [h.file]; split <;> simp
  temporary := by simp [h.temporary]

theorem Holds.remaining_lines (h : Holds u records accepted) :
    ∀ l ∈ (remaining records accepted).map (·.1), IsLine l := by
  intro l hl
  obtain ⟨r, hr, rfl⟩ := List.mem_map.mp hl
  exact h.lines r (List.mem_filter.mp hr).1

/-- The number of lines that wait is that of the records left. -/
theorem Holds.pending (h : Holds u records accepted) :
    u.spool.pending = .ok (remaining records accepted).length := by
  simp only [Spool.pending, h.names, h.usable.hindrance, h.file]
  by_cases empty : remaining records accepted = []
  · simp [empty]
  · simp [empty, lines_ofLines h.remaining_lines]

theorem Holds.append (h : Holds u records accepted) {record : String} (one : OneLine record)
    {r : Bytes × Nat} (line : r.1 = Utf8.encode (stripped record)) (fresh : r ∉ records) :
    ∃ spool, u.spool.append record = (.ok (), spool) ∧
      Holds { u with spool } (records ++ [r]) accepted := by
  have outside : r ∉ accepted.flatten := fun hm => fresh (h.known r hm)
  have left : remaining (records ++ [r]) accepted = remaining records accepted ++ [r] :=
    remaining_concat outside
  have written : (ofLines ((remaining (records ++ [r]) accepted).map (·.1))) =
      ofLines ((remaining records accepted).map (·.1)) ++
        (Utf8.encode (stripped record) ++ [lineFeed]) := by
    simp [left, ofLines, line]
  have appends : u.spool.append record = (.ok (), { u.spool with files := { u.spool.files with
      spool := .file (ofLines ((remaining (records ++ [r]) accepted).map (·.1))) } }) := by
    rw [written]
    simp only [Spool.append, one.lineOf, h.names, h.usable.hindrance, h.file]
    by_cases empty : remaining records accepted = [] <;> simp [empty, ofLines]
  refine ⟨_, appends, ?_⟩
  exact {
    nodup := List.nodup_append.mpr ⟨h.nodup, by simp, by
      rintro a ha b hb rfl
      exact fresh (List.mem_singleton.mp hb ▸ ha)⟩
    lines := fun x hx => (List.mem_append.mp hx).elim (h.lines x) fun hx => by
      rw [List.mem_singleton.mp hx, line]
      exact one.isLine
    once := h.once
    known := fun x hx => List.mem_append_left _ (h.known x hx)
    batches := h.batches
    names := h.names
    reachable := h.reachable
    file := by simp [left]
    temporary := h.temporary }

theorem remaining_append (records : List (Bytes × Nat)) (xs ys : List (List (Bytes × Nat))) :
    remaining records (xs ++ ys) = remaining (remaining records xs) ys := by
  simp only [remaining, List.filter_filter, List.flatten_append, List.mem_append, not_or,
    Bool.decide_and]
  apply List.filter_congr
  intro x _
  exact Bool.and_comm _ _

theorem flatten_answered_eq_nil {size : Nat} {xs : List (Bytes × Nat)} {answers : List Bool} :
    (answered false (Text.groups size xs) answers).flatten = [] ↔
      answered false (Text.groups size xs) answers = [] := by
  constructor
  · intro h
    apply List.eq_nil_iff_forall_not_mem.mpr
    intro group hg
    have empty : group = [] := List.flatten_eq_nil_iff.mp h group hg
    exact Text.nil_not_mem_groups size xs (empty ▸ (answered_sublist _ _ _).subset hg)
  · intro h
    simp [h]

theorem Holds.replay (h : Holds u records accepted)
    (decide : List (Bytes × Bool) → Bytes → Bool) :
    ∃ outcome spool offered accepted',
      u.spool.replay (noting decide) u.offered = (.ok outcome, spool, offered) ∧
      accepted <+: accepted' ∧ Holds { spool, offered } records accepted' := by
  by_cases empty : remaining records accepted = []
  · have absent : u.spool.files.spool = .absent := by simp [h.file, empty]
    exact ⟨{}, u.spool, u.offered, accepted,
      replay_nothing (noting decide) h.usable.accessible (.inl absent) u.offered, List.prefix_rfl, h⟩
  · let groups := Text.groups u.spool.batchLines (remaining records accepted)
    let batches := groups.map (List.map (·.1))
    let answers := (answersTo (noting decide) batches u.offered).1
    let taken := answered true groups answers
    have file : u.spool.files.spool =
        .file (ofLines ((remaining records accepted).map (·.1))) := by simp [h.file, empty]
    have full : ofLines ((remaining records accepted).map (·.1)) ≠ [] :=
      ofLines_ne_nil (by simpa using empty)
    have hb : batches = Text.groups u.spool.batchLines
        (Spool.lines (ofLines ((remaining records accepted).map (·.1)))) := by
      rw [lines_ofLines h.remaining_lines, Text.groups_map]
    have log : answersTo (noting decide) batches u.offered =
        (answers, u.offered ++ (batches.map Gzip.compressBatch).zip answers) :=
      Prod.ext rfl (answersTo_noting decide batches u.offered)
    have replayed := replay_file (noting decide) h.usable file full u.offered hb log
    have flat : groups.flatten = remaining records accepted := Text.flatten_groups _ _
    have nodup : groups.flatten.Nodup := flat ▸ h.nodup.filter _
    have left : remaining records (accepted ++ taken) =
        (answered false groups answers).flatten := by
      rw [remaining_append, ← flat]
      exact remaining_groups nodup (by simp [answers, batches])
    have inside : ∀ r ∈ taken.flatten, r ∈ remaining records accepted := fun r hr =>
      flat ▸ (answered_sublist ..).flatten.subset hr
    refine ⟨_, _, _, accepted ++ taken, replayed, List.prefix_append _ _, ?_⟩
    exact {
      nodup := h.nodup
      lines := h.lines
      once := by
        rw [List.flatten_append]
        refine List.nodup_append.mpr ⟨h.once, ?_, ?_⟩
        · exact nodup.sublist (answered_sublist true groups answers).flatten
        · rintro x hx y hy rfl
          have free := (List.mem_filter.mp (inside x hy)).2
          exact of_decide_eq_true free hx
      known := by
        intro r hr
        rw [List.flatten_append] at hr
        rcases List.mem_append.mp hr with old | new
        · exact h.known r old
        · exact (List.mem_filter.mp (inside r new)).1
      batches := by
        rw [acceptedOf_append, acceptedOf_zip, h.batches, answered_map, answered_map,
          List.map_append, List.map_map]
        rfl
      names := h.names
      reachable := h.reachable
      file := by
        have nil : (answered false groups answers).flatten = [] ↔
            answered false groups answers = [] := flatten_answered_eq_nil
        simp only [left, nil, batches, answered_map, List.map_eq_nil_iff, List.map_flatten]
      temporary := rfl }

theorem Holds.reopen (h : Holds u records accepted) (batchLines : Nat) :
    ∃ spool, u.spool.reopen batchLines = .ok spool ∧
      Holds { u with spool } records accepted := by
  refine ⟨{ u.spool with batchLines := max batchLines 1, batchLines_pos := by omega },
    by simp [Spool.reopen, h.reachable], ?_⟩
  exact { h with names := h.names, reachable := h.reachable, file := h.file }

end Steps

section Left
variable {records : List (Bytes × Nat)} {accepted : List (List (Bytes × Nat))}

theorem length_remaining (nodup : records.Nodup) (once : accepted.flatten.Nodup)
    (known : ∀ r ∈ accepted.flatten, r ∈ records) :
    (remaining records accepted).length + accepted.flatten.length = records.length := by
  have gone : (records.filter (· ∈ accepted.flatten)).Perm accepted.flatten := by
    apply (List.perm_ext_iff_of_nodup (nodup.filter _) once).mpr
    intro r
    simpa using known r
  have parts := List.length_eq_length_filter_add (l := records) (· ∈ accepted.flatten)
  rw [gone.length_eq] at parts
  simp only [remaining, decide_not]
  omega

/-- A batch that is accepted goes out of the lines that are left, and nothing else does. -/
theorem remaining_accept {before batch after : List (Bytes × Nat)} (nodup : records.Nodup)
    (left : remaining records accepted = before ++ (batch ++ after)) :
    remaining records (accepted ++ [batch]) = before ++ after := by
  have distinct : (before ++ (batch ++ after)).Nodup := left ▸ nodup.filter _
  obtain ⟨_, inner, apart⟩ := List.nodup_append.mp distinct
  obtain ⟨_, _, apart'⟩ := List.nodup_append.mp inner
  have kept_before : before.filter (· ∉ batch) = before := by
    apply List.filter_eq_self.mpr
    intro r hr
    exact decide_eq_true fun hb => apart r hr r (List.mem_append_left _ hb) rfl
  have kept_after : after.filter (· ∉ batch) = after := by
    apply List.filter_eq_self.mpr
    intro r hr
    exact decide_eq_true fun hb => apart' r hb r hr rfl
  have gone : batch.filter (· ∉ batch) = [] := by
    apply List.filter_eq_nil_iff.mpr
    intro r hr
    simpa using hr
  rw [remaining_append, left, remaining, List.flatten_singleton, List.filter_append,
    List.filter_append, kept_before, gone, kept_after, List.nil_append]

theorem zipIdx_nodup (texts : List Bytes) : texts.zipIdx.Nodup := by
  apply List.Nodup.of_map Prod.snd
  rw [List.zipIdx_map_snd]
  exact List.nodup_range'

end Left

theorem holds_start (batchLines : Nat) : Holds { spool := ofFiles {} batchLines } [] [] where
  nodup := List.nodup_nil
  lines := by simp
  once := List.nodup_nil
  known := by simp
  batches := rfl
  names := rfl
  reachable := rfl
  file := rfl
  temporary := rfl

/-- Every call succeeds, and the spool holds what it should afterwards. -/
theorem perform_holds {u : Usage} {texts : List Bytes} {accepted : List (List (Bytes × Nat))}
    (h : Holds u texts.zipIdx accepted) (call : Call)
    (one : ∀ record, call = .append record → OneLine record) :
    ∃ u' accepted', u.perform call = .ok u' ∧ accepted <+: accepted' ∧
      Holds u' (texts ++ call.line?.toList).zipIdx accepted' := by
  cases call with
  | append record =>
    have fresh : (Utf8.encode (stripped record), texts.length) ∉ texts.zipIdx := fun mem => by
      have bound := List.snd_lt_of_mem_zipIdx mem
      simp at bound
    obtain ⟨spool, appends, holds⟩ := h.append (one record rfl) rfl fresh
    refine ⟨{ u with spool }, accepted, by simp [Usage.perform, appends], List.prefix_rfl, ?_⟩
    simpa [Call.line?, List.zipIdx_append] using holds
  | replay decide =>
    obtain ⟨outcome, spool, offered, accepted', replays, grows, holds⟩ := h.replay decide
    refine ⟨{ spool, offered }, accepted', by simp [Usage.perform, replays], grows, ?_⟩
    simpa [Call.line?] using holds
  | pending =>
    exact ⟨u, accepted, by simp [Usage.perform, h.pending, Except.map], List.prefix_rfl,
      by simpa [Call.line?] using h⟩
  | reopen batchLines =>
    obtain ⟨spool, reopens, holds⟩ := h.reopen batchLines
    refine ⟨{ u with spool }, accepted, by simp [Usage.perform, reopens, Except.map],
      List.prefix_rfl, ?_⟩
    simpa [Call.line?] using holds

/-- Along a run the accepted batches grow, and after every call the spool holds what it should. -/
theorem run_holds {u : Usage} {texts : List Bytes} {accepted : List (List (Bytes × Nat))}
    (h : Holds u texts.zipIdx accepted) (calls : List Call)
    (one : ∀ record, .append record ∈ calls → OneLine record) :
    ∃ history : Nat → List (List (Bytes × Nat)), accepted <+: history 0 ∧
      (∀ n, history n <+: history (n + 1)) ∧
      ∀ n, ∃ u', (calls.take n).foldlM Usage.perform u = .ok u' ∧
        Holds u' (texts ++ (calls.take n).filterMap Call.line?).zipIdx (history n) := by
  induction calls generalizing u texts accepted with
  | nil =>
    refine ⟨fun _ => accepted, List.prefix_rfl, fun _ => List.prefix_rfl, fun n => ⟨u, ?_, ?_⟩⟩
    · simp
      rfl
    · simpa using h
  | cons call rest ih =>
    obtain ⟨u₁, accepted₁, performs, grows, holds⟩ :=
      perform_holds h call fun record eq => one record (by simp [eq])
    obtain ⟨history, first, growing, after⟩ :=
      ih holds fun record mem => one record (by simp [mem])
    -- The history of the other calls, and before it what was accepted before this one.
    refine ⟨fun n => n.casesOn accepted history, List.prefix_rfl, ?_, ?_⟩
    · intro n
      cases n with
      | zero => exact grows.trans first
      | succ n => exact growing n
    · intro n
      cases n with
      | zero =>
        refine ⟨u, rfl, ?_⟩
        change Holds u (texts ++ []).zipIdx accepted
        rwa [List.append_nil]
      | succ n =>
        obtain ⟨u', run, holds'⟩ := after n
        refine ⟨u', ?_, ?_⟩
        · simp only [List.take_succ_cons, List.foldlM_cons, performs]
          exact run
        · have both : (texts ++ call.line?.toList) ++ (rest.take n).filterMap Call.line? =
              texts ++ ((call :: rest).take (n + 1)).filterMap Call.line? := by
            cases hl : call.line? <;> simp [hl]
          rwa [both] at holds'

/-- Of the appended records those in no accepted batch are the lines of the spool, in the order in
which they were appended; each record is in at most one accepted batch. -/
structure Conserved (u : Usage) (records : List (Bytes × Nat))
    (accepted : List (List (Bytes × Nat))) : Prop where
  batches : acceptedOf u.offered = accepted.map fun batch => Gzip.compressBatch (batch.map (·.1))
  known : ∀ r ∈ accepted.flatten, r ∈ records
  once : accepted.flatten.Nodup
  file : u.spool.files.spool = if remaining records accepted = [] then .absent
    else .file (ofLines ((remaining records accepted).map (·.1)))
  pending : u.spool.pending = .ok (remaining records accepted).length
  temporary : u.spool.files.temporary = .absent

theorem Holds.conserved {u : Usage} {records : List (Bytes × Nat)}
    {accepted : List (List (Bytes × Nat))} (h : Holds u records accepted) :
    Conserved u records accepted :=
  ⟨h.batches, h.known, h.once, h.file, h.pending, h.temporary⟩

/-- A spool that begins without files keeps every record until a batch with it is accepted: after
every one of any calls, none of which fails, it has lost, repeated and moved nothing. -/
theorem calls_conserve_records (batchLines : Nat) (calls : List Call)
    (one : ∀ record, .append record ∈ calls → OneLine record) :
    ∃ history : Nat → List (List (Bytes × Nat)), (∀ n, history n <+: history (n + 1)) ∧
      ∀ n, ∃ u,
        (calls.take n).foldlM Usage.perform { spool := ofFiles {} batchLines } = .ok u ∧
        Conserved u (appended (calls.take n)) (history n) := by
  obtain ⟨history, _, growing, after⟩ := @run_holds _ [] _ (holds_start batchLines) calls one
  refine ⟨history, growing, fun n => ?_⟩
  obtain ⟨u, run, holds⟩ := after n
  exact ⟨u, run, holds.conserved⟩

/-- Two records in one refused batch, and then a third one and batches of one line, of which the
first is refused. -/
def threeRecords : List Call :=
  [.append "a v=1i", .append "b v=\"\\\\\"\r\n", .replay fun _ _ => false, .append "a v=1i",
    .pending, .reopen 0, .replay fun offered _ => offered.length != 1]

theorem threeRecords_conserved :
    (∀ record, .append record ∈ threeRecords → OneLine record) ∧
      ∃ history : Nat → List (List (Bytes × Nat)), (∀ n, history n <+: history (n + 1)) ∧
        ∀ n, ∃ u,
          (threeRecords.take n).foldlM Usage.perform { spool := ofFiles {} 5000 } = .ok u ∧
          Conserved u (appended (threeRecords.take n)) (history n) := by
  have one : ∀ record, .append record ∈ threeRecords → OneLine record := by
    intro record mem
    simp only [threeRecords, List.mem_cons, Call.append.injEq, reduceCtorEq, List.not_mem_nil,
      or_false, false_or] at mem
    rcases mem with rfl | rfl | rfl <;> exact oneLine_iff.mpr (by decide)
  exact ⟨one, calls_conserve_records 5000 threeRecords one⟩

end TelemetryRelay.Spool
