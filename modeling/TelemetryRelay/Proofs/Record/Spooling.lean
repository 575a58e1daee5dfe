import TelemetryRelay.Proofs.Record.Breaks
import TelemetryRelay.Proofs.Spool.Readers

namespace TelemetryRelay

namespace Spool
variable {s : Spool}

/-- One state of a spool has one more line than another one, and its next replay offers the lines of
the other one and then this line. -/
structure Gains (s s' : Spool) (line : Bytes) : Prop where
  pending : ∃ n, s.pending = .ok n ∧ s'.pending = .ok (n + 1)
  offered : ∀ {σ : Type} (send : Bytes → σ → Bool × σ) (t : σ), ∃ batches outcome left,
    Text.IsGrouping s.batchLines (lines s.content ++ [line]) batches ∧
    (∀ batch ∈ batches, Gzip.decompress (Gzip.compressBatch batch) = some (ofLines batch)) ∧
    s'.replay send t = (.ok outcome, left, (answersTo send batches t).2)

/-- A line is gained when it is written behind whole lines. -/
theorem Usable.gains (usable : s.Usable)
    (ended : s.content = [] ∨ s.content.getLast? = some lineFeed) {line : Bytes}
    (isLine : IsLine line) :
    s.Gains { s with files := { s.files with spool := .file (s.content ++ (line ++ [lineFeed])) } }
      line := by
  have more := lines_append ended isLine
  have usable' : Usable { s with
      files := { s.files with spool := .file (s.content ++ (line ++ [lineFeed])) } } :=
    ⟨usable.reachable, usable.names, by simp, usable.temporary⟩
  constructor
  · refine ⟨_, usable.accessible.pending, ?_⟩
    rw [usable'.accessible.pending, content, more, List.length_append, List.length_singleton]
  · intro σ send t
    have replayed := replay_file send usable' rfl (by simp) t rfl rfl
    rw [more] at replayed
    exact ⟨_, _, _, Text.groups_isGrouping s.batchLines_pos _,
      fun batch _ => decompress_compressBatch batch, replayed⟩

end Spool

namespace Record

/-- Where a record comes from, and the values of the tags it was built with. -/
inductive Origin : Record → List String → Prop where
  | copied {capacity : Nat} {b : Builder} (opened : Builder.withCapacity capacity = .ok b)
      (calls : List (Int64 × Builder.Call)) (now : Int64) {r : Record}
      (copied : (((Builder.Work.start b).run calls).builder.copy now).1 = .ok r) :
      Origin r (((Builder.Work.start b).run calls).draft.tags.map (·.2))
  | parsed {line : String} {r : Record} (read : parse line = .ok r) : Origin r []

variable {r : Record} {values : List String}

theorem Origin.singleLine_iff (origin : Origin r values) :
    r.SingleLine ↔ ∀ value ∈ values, ∀ c ∈ value.toList, Text.isLineBreak c = false := by
  cases origin with
  | copied opened calls now copied =>
    obtain ⟨b, text, drafted, _⟩ := Builder.copy_eq_ok ((Builder.start_kept opened).run calls) copied
    have full := (drafted.last_no_break rfl).1
    have breaks := drafted.no_break_iff
    rw [← text] at full breaks
    rw [List.forall_mem_map]
    exact ⟨fun h => breaks.mp h.no_break, fun h => ⟨full, breaks.mpr h⟩⟩
  | parsed read => simp [singleLine_of_parse read]

/-- A record is not empty and does not end in a line break. -/
theorem Origin.last_no_break (origin : Origin r values) :
    r.text.toList ≠ [] ∧ ∀ c ∈ r.text.toList.getLast?, Text.isLineBreak c = false := by
  cases origin with
  | copied opened calls now copied =>
    obtain ⟨b, text, drafted, _⟩ := Builder.copy_eq_ok ((Builder.start_kept opened).run calls) copied
    rw [text]
    exact drafted.last_no_break rfl
  | parsed read =>
    have single := singleLine_of_parse read
    exact ⟨single.ne_nil, fun c hc => single.no_break c (List.mem_of_getLast? hc)⟩

theorem Origin.lineOf_eq_error (origin : Origin r values) (broken : ¬ r.SingleLine) :
    Spool.lineOf r.text = .error .recordSpansLines := by
  obtain ⟨full, last⟩ := origin.last_no_break
  have breaks : r.text.toList.any Text.isLineBreak = true := by
    by_contra none_
    exact broken (Record.singleLine_iff.mpr ⟨full, by simpa using none_⟩)
  simp [Spool.lineOf, Text.dropTrailing_eq_self last, breaks]

/-- A record from a builder or from a line is not empty. It has no line break unless a value of its
tags has one. Without one, a spool whose file ends with whole lines appends it, has one line more
after that, and offers it with its next replay; with one, the spool refuses it and stays as it is. -/
theorem origin_is_line {r : Record} {values : List String} (origin : Origin r values) {s : Spool}
    (usable : s.Usable) (ended : s.content = [] ∨ s.content.getLast? = some Spool.lineFeed) :
    r.text.toList ≠ [] ∧
    (r.SingleLine ↔ ∀ value ∈ values, ∀ c ∈ value.toList, Text.isLineBreak c = false) ∧
    (r.SingleLine → ∃ s', s.append r.text = (.ok (), s') ∧ s.Gains s' r.bytes) ∧
    (¬ r.SingleLine → s.append r.text = (.error .recordSpansLines, s)) := by
  refine ⟨origin.last_no_break.1, origin.singleLine_iff, fun single => ?_, fun broken => ?_⟩
  · exact ⟨_, usable.accessible.append single.lineOf, usable.gains ended single.isLine⟩
  · simp [Spool.append, origin.lineOf_eq_error broken]

/-- A record with a quoted line break, which is refused, and a tag value full of separators. -/
def plainTag : List (Int64 × Builder.Call) :=
  [(1, .setMeasurement "m"), (1, .addTag "k" "a, \\b"), (2, .addField "v" (.text "a\nb")),
    (2, .addField "v" (.text "\"a\"")), (3, .setTimestamp 1)]

theorem plainTag_is_line :
    ∃ r values, Origin r values ∧ ({} : Spool).Usable ∧ ({} : Spool).content = [] ∧
      r.SingleLine ∧
      ∃ s', ({} : Spool).append r.text = (.ok (), s') ∧ ({} : Spool).Gains s' r.bytes := by
  have copied : (((Builder.Work.start {}).run plainTag).builder.copy 4).1 =
      .ok ⟨"m,k=a, \\b v=\"\\\"a\\\"\" 1"⟩ := by decide +kernel
  have tags : ((Builder.Work.start {}).run plainTag).draft.tags = [("k", "a, \\b")] := by
    decide +kernel
  have opened : Builder.withCapacity 1024 = .ok {} := rfl
  have origin : Origin ⟨"m,k=a, \\b v=\"\\\"a\\\"\" 1"⟩ ["a, \\b"] := by
    have built := Origin.copied opened plainTag 4 copied
    rwa [tags] at built
  have usable : ({} : Spool).Usable := ⟨rfl, rfl, by decide, by decide⟩
  obtain ⟨_, single, taken, _⟩ := origin_is_line origin usable (.inl rfl)
  have one := single.mpr (by simp [Text.isLineBreak])
  exact ⟨_, _, origin, usable, rfl, one, taken one⟩

/-- A tag value with a line break. -/
def brokenTag : List (Int64 × Builder.Call) :=
  [(1, .setMeasurement "m"), (1, .addTag "k" "a\nb"), (1, .addField "v" (.integer 1)),
    (1, .setTimestamp 1)]

theorem brokenTag_not_line :
    (((Builder.Work.start {}).run brokenTag).builder.copy 1).1 = .ok ⟨"m,k=a\nb v=1i 1"⟩ ∧
      ¬ SingleLine ⟨"m,k=a\nb v=1i 1"⟩ ∧
      ({} : Spool).append "m,k=a\nb v=1i 1" = (.error .recordSpansLines, {}) := by
  refine ⟨by decide +kernel, fun single => ?_, by decide +kernel⟩
  exact absurd (single.no_break '\n' (by decide)) (by decide)

end Record
end TelemetryRelay
