import TelemetryRelay.Proofs.Gzip.RoundTrip
import TelemetryRelay.Proofs.Spool.Replaying

namespace TelemetryRelay.Spool

/-- The stream that is offered holds the lines of the batch as they stand in a file. -/
theorem decompress_compressBatch (batch : List Bytes) :
    Gzip.decompress (Gzip.compressBatch batch) = some (ofLines batch) :=
  Gzip.decompress_compress (ofLines batch)

theorem usable_ofFiles {files : SpoolFiles} (batchLines : Nat) (reachable : files.reachable = true)
    (spool : files.spool ≠ .directory) (temporary : files.temporary ≠ .directory) :
    (ofFiles files batchLines).Usable :=
  ⟨reachable, rfl, spool, temporary⟩

/-- A replay of a spool file, whatever its bytes are and whatever the callback answers. Without
anything in the file nobody is called and nothing changes. Otherwise the lines are offered once
each, group by group; afterwards the file has the lines of the refused groups, or is gone if there
are none, and the groups and lines that were accepted and refused are counted. -/
theorem replay_effect {σ : Type} (send : Bytes → σ → Bool × σ) (batchLines : Nat)
    {files : SpoolFiles} (reachable : files.reachable = true)
    (regular : files.temporary ≠ .directory) (t : σ) :
    (files.spool = .absent ∨ files.spool = .file [] →
      (ofFiles files batchLines).replay send t = (.ok {}, ofFiles files batchLines, t)) ∧
    ∀ content, files.spool = .file content → content ≠ [] →
      ∃ batches answers t',
        Text.IsGrouping (max batchLines 1) (lines content) batches ∧
        (∀ batch ∈ batches,
          Gzip.decompress (Gzip.compressBatch batch) = some (ofLines batch)) ∧
        answersTo send batches t = (answers, t') ∧
        (ofFiles files batchLines).replay send t =
          (.ok { batchesSent := (answered true batches answers).length
                 batchesFailed := (answered false batches answers).length
                 linesSent := (answered true batches answers).flatten.length
                 linesRetained := (answered false batches answers).flatten.length },
           { ofFiles files batchLines with files :=
              { files with
                spool := if answered false batches answers = [] then .absent
                  else .file (ofLines (answered false batches answers).flatten)
                temporary := .absent } },
           t') := by
  constructor
  · intro empty
    have spool : files.spool ≠ .directory := by rcases empty with h | h <;> simp [h]
    have usable := usable_ofFiles batchLines reachable spool regular
    exact replay_nothing send usable.accessible empty t
  · intro content file full
    have usable := usable_ofFiles batchLines reachable (by simp [file]) regular
    have size : Text.groups (max batchLines 1) (lines content) =
        Text.groups (ofFiles files batchLines).batchLines (lines content) := rfl
    refine ⟨_, _, _, Text.groups_isGrouping (by omega) _, fun batch _ =>
      decompress_compressBatch batch, rfl, ?_⟩
    rw [replay_file send usable file full t size rfl]
    simp [ReplayOutcome.tally, ofFiles]

/-- A line with a carriage return, blank ones, one that is no text, and one that does not end. -/
def mixedLines : SpoolFiles where
  spool := .file [0x61, 0x0D, 0x0A, 0x0A, 0x0D, 0x0A, 0xFF, 0xFE, 0x0A, 0x62]
  temporary := .file [0x78]

/-- Refuses the first batch and counts how many there are. -/
def refuseFirst (_ : Bytes) (count : Nat) : Bool × Nat :=
  (count != 0, count + 1)

theorem mixedLines_effect :
    mixedLines.reachable = true ∧ mixedLines.temporary ≠ .directory ∧
      ∃ batches answers count,
        Text.IsGrouping 2 [[0x61], [0xFF, 0xFE], [0x62]] batches ∧
        (∀ batch ∈ batches,
          Gzip.decompress (Gzip.compressBatch batch) = some (ofLines batch)) ∧
        answersTo refuseFirst batches 0 = (answers, count) ∧
        (ofFiles mixedLines 2).replay refuseFirst 0 =
          (.ok { batchesSent := (answered true batches answers).length
                 batchesFailed := (answered false batches answers).length
                 linesSent := (answered true batches answers).flatten.length
                 linesRetained := (answered false batches answers).flatten.length },
           { ofFiles mixedLines 2 with files :=
              { spool := if answered false batches answers = [] then .absent
                  else .file (ofLines (answered false batches answers).flatten) } },
           count) := by
  have effect := (@replay_effect _ refuseFirst 2 mixedLines rfl (by decide) 0).2 _ rfl (by decide)
  have spelled : lines [0x61, 0x0D, 0x0A, 0x0A, 0x0D, 0x0A, 0xFF, 0xFE, 0x0A, 0x62] =
      [[0x61], [0xFF, 0xFE], [0x62]] := by decide
  rw [spelled] at effect
  exact ⟨rfl, by decide, effect⟩

example : ((ofFiles mixedLines 2).replay refuseFirst 0).2.1.files =
    { spool := .file [0x61, 0x0A, 0xFF, 0xFE, 0x0A] } := by decide

end TelemetryRelay.Spool
