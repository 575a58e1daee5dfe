import TelemetryRelay.Proofs.Spool.Conservation
import TelemetryRelay.Proofs.Text.Splitting
import TelemetryRelay.Record.Basic

namespace TelemetryRelay

structure Record.SingleLine (r : Record) : Prop where
  ne_nil : r.text.toList ≠ []
  no_break : ∀ c ∈ r.text.toList, Text.isLineBreak c = false

theorem Record.singleLine_iff {r : Record} :
    r.SingleLine ↔ r.text.toList ≠ [] ∧ r.text.toList.any Text.isLineBreak = false := by
  rw [List.any_eq_false]
  simp only [Bool.not_eq_true]
  exact ⟨fun h => ⟨h.ne_nil, h.no_break⟩, fun h => ⟨h.1, h.2⟩⟩

namespace Record.SingleLine
variable {r : Record}

theorem stripped (h : r.SingleLine) : Spool.stripped r.text = r.text := by
  rw [Spool.stripped, Text.dropTrailing_eq_self fun c hc => h.no_break c (List.mem_of_getLast? hc), String.ofList_toList]

theorem oneLine (h : r.SingleLine) : Spool.OneLine r.text where
  ne_nil := by rw [h.stripped]; exact h.ne_nil
  no_break := by rw [h.stripped]; exact h.no_break

/-- The record is one line in a file. -/
theorem isLine (h : r.SingleLine) : Spool.IsLine r.bytes := by
  simpa [h.stripped, bytes] using h.oneLine.isLine

theorem lineOf (h : r.SingleLine) :
    Spool.lineOf r.text = .ok (r.bytes ++ [Spool.lineFeed]) := by
  simpa [h.stripped, bytes] using h.oneLine.lineOf

end Record.SingleLine
end TelemetryRelay
