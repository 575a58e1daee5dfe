import TelemetryRelay.Proofs.Record.SingleLine
import TelemetryRelay.Proofs.Spool.Keeping

namespace TelemetryRelay.Spool
variable {s s' : Spool}

theorem accessible_of_append {record : String} {line : Bytes} (named : s.names = {})
    (written : lineOf record = .ok line) (appends : s.append record = (.ok (), s')) :
    s.Accessible := by
  refine ⟨?_, named, fun directory => ?_⟩
  · by_contra away
    simp [append, written, named, hindrance, away] at appends
  · simp only [append, written, directory] at appends
    split at appends <;> simp at appends

theorem append_ok_iff {record : String} {line : Bytes} (named : s.names = {})
    (written : lineOf record = .ok line) :
    (∃ s', s.append record = (.ok (), s')) ↔
      s.files.reachable = true ∧ s.files.spool ≠ .directory := by
  constructor
  · rintro ⟨s', appends⟩
    have accessible := accessible_of_append named written appends
    exact ⟨accessible.reachable, accessible.spool⟩
  · rintro ⟨reachable, regular⟩
    exact ⟨_, Accessible.append ⟨reachable, named, regular⟩ written⟩

/-- A record without line breaks is appended to every file that can be reached. Whatever is in the
file, the lines that are seen afterwards are those from before and the record as the last one if and
only if the file was empty or ended in a line feed; otherwise the record goes on with the piece
after the last line feed. -/
theorem append_own_line_iff (named : s.names = {}) {r : Record} (single : r.SingleLine) :
    ((∃ s', s.append r.text = (.ok (), s')) ↔
      s.files.reachable = true ∧ s.files.spool ≠ .directory) ∧
    ∀ s', s.append r.text = (.ok (), s') →
      s.Shows (lines s.content) ∧ s'.Shows (lines s'.content) ∧
      (lines s'.content = lines s.content ++ [r.bytes] ↔
        s.content = [] ∨ s.content.getLast? = some lineFeed) ∧
      ∃ whole piece, s.content = ofLines whole ++ piece ∧ lineFeed ∉ piece ∧
        lines s.content = shown whole ++ shown [piece] ∧
        lines s'.content = shown whole ++ [piece ++ r.bytes] := by
  refine ⟨append_ok_iff named single.lineOf, fun s' appends => ?_⟩
  have accessible := accessible_of_append named single.lineOf appends
  obtain ⟨_, same, rfl⟩ := append_adds_line appends
  cases single.lineOf.symm.trans same
  have one := single.isLine
  obtain ⟨whole, piece, eq, free, last⟩ := exists_pieces s.content
  have before : lines s.content = shown whole ++ shown [piece] := by
    rw [eq, lines_ofLines_append free, lines_piece last]
  have after : lines (s.content ++ (r.bytes ++ [lineFeed])) =
      shown whole ++ shown [piece ++ r.bytes] := by
    have ends : r.bytes ++ [lineFeed] = ofLines [r.bytes] := by simp [ofLines]
    rw [eq, ends, lines_pieces_append free last (by simpa using one.no_feed), shown_nil,
      List.append_nil]
  refine ⟨accessible.shows, Accessible.shows ⟨accessible.reachable, named, by simp⟩, ?_,
    whole, piece, eq, last, before, after.trans (by rw [one.shown_glued])⟩
  change lines (s.content ++ (r.bytes ++ [lineFeed])) = _ ↔ _
  rw [after, before, List.append_assoc, List.append_cancel_left_eq, shown_glued_iff one, eq,
    ended_iff last]

/-- A file with bytes that are no text, a blank line and carriage returns, which ends in a line
feed. -/
def damagedFile : Spool :=
  ofFiles { spool := .file [0xFF, 0x0D, 0x0D, 0x0A, 0x0D, 0x0A, 0x61, 0x0A] } 2

theorem damagedFile_own_line :
    damagedFile.names = {} ∧ Record.SingleLine ⟨"m v=1i"⟩ ∧
      damagedFile.content.getLast? = some lineFeed ∧
      ∃ s', damagedFile.append "m v=1i" = (.ok (), s') ∧
        damagedFile.Shows [[0xFF, 0x0D], [0x61]] ∧
        s'.Shows [[0xFF, 0x0D], [0x61], Utf8.encode "m v=1i"] := by
  have single : Record.SingleLine ⟨"m v=1i"⟩ := Record.singleLine_iff.mpr (by decide)
  obtain ⟨works, adds⟩ := append_own_line_iff (s := damagedFile) rfl single
  obtain ⟨s', appends⟩ := works.mpr (by decide)
  obtain ⟨before, after, own, _⟩ := adds s' appends
  have seen : lines damagedFile.content = [[0xFF, 0x0D], [0x61]] := by decide
  have ended : damagedFile.content.getLast? = some lineFeed := by decide
  rw [own.mpr (.inr ended), seen] at after
  exact ⟨rfl, single, ended, s', appends, seen ▸ before, after⟩

/-- A file that ends within a line, as a write that was broken off leaves it. -/
def tornLine : Spool :=
  ofFiles { spool := .file [0x61] } 5000

theorem tornLine_runs_on :
    tornLine.names = {} ∧ Record.SingleLine ⟨"b"⟩ ∧
      ∃ s', tornLine.append "b" = (.ok (), s') ∧
        lines tornLine.content = [[0x61]] ∧ tornLine.pending = .ok 1 ∧
        lines s'.content = [[0x61, 0x62]] ∧ s'.pending = .ok 1 := by
  have appends : tornLine.append "b" =
      (.ok (), ofFiles { spool := .file [0x61, 0x62, 0x0A] } 5000) := by decide +kernel
  exact ⟨rfl, Record.singleLine_iff.mpr (by decide), _, appends, by decide, by decide, by decide,
    by decide⟩

end TelemetryRelay.Spool
