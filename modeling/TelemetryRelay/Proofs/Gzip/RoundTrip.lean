import Mathlib.Algebra.Group.Nat.Defs
import TelemetryRelay.Gzip.Stream
import TelemetryRelay.Proofs.Text.Groups

namespace TelemetryRelay.Gzip

/-- Of a number that takes more bytes, the lowest ones are kept. -/
theorem ofLittleEndian_lowest (count n : Nat) :
    ofLittleEndian (littleEndian count n) = n % 256 ^ count := by
  induction count generalizing n with
  | zero => rw [Nat.pow_zero, Nat.mod_one]; rfl
  | succ count ih =>
    rw [littleEndian, ofLittleEndian, ih, UInt8.toNat_ofNat', Nat.mod_mod, Nat.pow_succ',
      Nat.mod_mul]

theorem ofLittleEndian_littleEndian {count n : Nat} (h : n < 256 ^ count) :
    ofLittleEndian (littleEndian count n) = n := by
  rw [ofLittleEndian_lowest, Nat.mod_eq_of_lt h]

/-- A stored block in front gives its piece; only after the last one nothing more is read. -/
theorem inflateOnto_storedBlock (done : List Bytes) (last : Bool) {piece : Bytes}
    (fits : piece.length ≤ maxBlock) (rest : Bytes) :
    inflateOnto done (storedBlock last piece ++ rest) =
      if last then some ((piece :: done).reverse.flatten, rest)
      else inflateOnto (piece :: done) rest := by
  have size : ofLittleEndian (littleEndian 2 piece.length) = piece.length :=
    ofLittleEndian_littleEndian (by simp only [maxBlock] at fits; omega)
  have complement : ofLittleEndian (littleEndian 2 (maxBlock - piece.length)) =
      maxBlock - piece.length := ofLittleEndian_littleEndian (by simp only [maxBlock]; omega)
  simp only [littleEndian] at size complement
  rw [storedBlock, littleEndian, littleEndian, littleEndian, littleEndian, littleEndian,
    littleEndian]
  simp only [List.cons_append, List.nil_append]
  rw [inflateOnto]
  simp only [size, complement, List.length_append, List.take_left', List.drop_left',
    Nat.not_lt.mpr (Nat.le_add_right _ _)]
  cases last <;> simp

theorem inflateOnto_storedBlocks (done pieces : List Bytes)
    (fit : ∀ piece ∈ pieces, piece.length ≤ maxBlock) (rest : Bytes) :
    inflateOnto done (storedBlocks pieces ++ rest) =
      some (done.reverse.flatten ++ pieces.flatten, rest) := by
  induction pieces using storedBlocks.induct generalizing done with
  | case1 =>
    rw [storedBlocks, inflateOnto_storedBlock done true (by simp)]
    simp
  | case2 piece =>
    rw [storedBlocks, inflateOnto_storedBlock done true (fit piece (by simp))]
    simp
  | case3 piece others more ih =>
    have before : storedBlocks (piece :: others) ++ rest =
        storedBlock false piece ++ (storedBlocks others ++ rest) := by
      rw [storedBlocks.eq_3 piece others more, List.append_assoc]
    rw [before, inflateOnto_storedBlock done false (fit piece (by simp)),
      if_neg Bool.false_ne_true, ih _ fun p hp => fit p (by simp [hp])]
    simp

theorem inflate_deflate (text rest : Bytes) : inflate (deflate text ++ rest) = some (text, rest) := by
  have fit (piece : Bytes) (h : piece ∈ Text.groups maxBlock text) : piece.length ≤ maxBlock :=
    Text.length_le_of_mem_groups (by decide) h
  rw [inflate, deflate, inflateOnto_storedBlocks [] _ fit, Text.flatten_groups]
  rfl

theorem decompress_compress (text : Bytes) : decompress (compress text) = some text := by
  simp only [decompress, compress, List.append_assoc, List.take_left, List.drop_left,
    inflate_deflate, if_true]

end TelemetryRelay.Gzip
