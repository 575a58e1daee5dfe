import TelemetryRelay.Proofs.Gzip.Remainder
import TelemetryRelay.Proofs.Gzip.RoundTrip
import TelemetryRelay.Proofs.Spool.Lines

namespace TelemetryRelay.Gzip
open Polynomial

theorem length_littleEndian (count n : Nat) : (littleEndian count n).length = count := by
  induction count generalizing n with
  | zero => rfl
  | succ count ih => rw [littleEndian, List.length_cons, ih]

/-- The lines of a text in which every line ends in a line feed. -/
def textLines (text : Bytes) : List Bytes :=
  (text.splitOn Spool.lineFeed).dropLast

theorem textLines_batchText {lines : List Bytes} (single : ∀ line ∈ lines, Spool.lineFeed ∉ line) :
    textLines (batchText lines) = lines := by
  have parts := Spool.splitOn_ofLines single []
  rw [List.append_nil, List.splitOn_nil] at parts
  have whole : (batchText lines).splitOn Spool.lineFeed = lines ++ [[]] := parts
  rw [textLines, whole, List.dropLast_concat]

/-- The stream of a batch is a header of ten bytes, deflate data that hold the lines with a line feed
after each of them, and a trailer of twice four bytes: the checksum, which is a remainder of the text,
and the size. It is read as that text. From the text of lines without line feeds the lines can be
told, so that no two batches of such lines have streams of the same text. -/
theorem compressBatch_says_lines (lines : List Bytes) :
    let text := lines.flatMap fun line => line ++ [0x0A]
    (∃ data sum size, compressBatch lines = header ++ data ++ (sum ++ size) ∧
      header.length = 10 ∧ sum.length = 4 ∧ size.length = 4 ∧
      inflate data = some (text, []) ∧
      polynomial (bits 32 (ofLittleEndian sum)) =
        (polynomial (List.replicate 32 true) * X ^ (8 * text.length) +
            polynomial (message text) * X ^ 32) %ₘ generator +
          polynomial (List.replicate 32 true) ∧
      ofLittleEndian size = text.length % 2 ^ 32) ∧
    decompress (compressBatch lines) = some text ∧
    ((∀ line ∈ lines, 0x0A ∉ line) →
      textLines text = lines ∧
        ∀ others : List Bytes, (∀ line ∈ others, 0x0A ∉ line) →
          decompress (compressBatch others) = some text → others = lines) := by
  intro text
  refine ⟨⟨deflate text, littleEndian 4 (checksum text).toNat, littleEndian 4 text.length, rfl, rfl,
    length_littleEndian _ _, length_littleEndian _ _, ?_, ?_, ?_⟩, decompress_compress text,
    fun single => ⟨textLines_batchText single, fun others single' same => ?_⟩⟩
  · have whole := inflate_deflate text []
    rwa [List.append_nil] at whole
  · have fits : (checksum text).toNat % 256 ^ 4 = (checksum text).toNat :=
      Nat.mod_eq_of_lt (UInt32.toNat_lt _)
    rw [ofLittleEndian_lowest, fits, polynomial_checksum]
  · exact ofLittleEndian_lowest _ _
  · rw [compressBatch, decompress_compress] at same
    have told : textLines text = lines := textLines_batchText single
    rw [← told, ← Option.some.inj same, textLines_batchText single']

/-- An empty line, and one that ends in a carriage return. -/
def oddBatch : List Bytes :=
  [[], [0x61, 0x0D], [0x62, 0x20]]

theorem oddBatch_says_lines :
    (∀ line ∈ oddBatch, 0x0A ∉ line) ∧
      decompress (compressBatch oddBatch) = some [0x0A, 0x61, 0x0D, 0x0A, 0x62, 0x20, 0x0A] ∧
      textLines [0x0A, 0x61, 0x0D, 0x0A, 0x62, 0x20, 0x0A] = oddBatch ∧
      ∀ others : List Bytes, (∀ line ∈ others, 0x0A ∉ line) →
        decompress (compressBatch others) = some [0x0A, 0x61, 0x0D, 0x0A, 0x62, 0x20, 0x0A] →
        others = oddBatch := by
  have single : ∀ line ∈ oddBatch, 0x0A ∉ line := by decide
  obtain ⟨-, whole, apart⟩ := compressBatch_says_lines oddBatch
  exact ⟨single, whole, apart single⟩

/-- A batch without lines. -/
example : decompress (compressBatch []) = some [] := by decide +kernel

end TelemetryRelay.Gzip
