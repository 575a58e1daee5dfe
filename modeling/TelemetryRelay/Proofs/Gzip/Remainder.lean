import Mathlib.Algebra.CharP.Two
import Mathlib.Algebra.Field.ZMod
import Mathlib.Data.Nat.Bitwise
import Mathlib.RingTheory.AdjoinRoot
import TelemetryRelay.Gzip.Checksum

namespace TelemetryRelay.Gzip
open Polynomial

/-- The polynomial whose coefficients are bits, the first one with the highest power. -/
noncomputable def polynomial : List Bool → (ZMod 2)[X]
  | [] => 0
  | bit :: rest => (if bit then X ^ rest.length else 0) + polynomial rest

/-- The lowest `count` bits of a number, the lowest first. -/
def bits : Nat → Nat → List Bool
  | 0, _ => []
  | count + 1, n => (n % 2 == 1) :: bits count (n / 2)

/-- The bits of a text, byte by byte. -/
def message (text : Bytes) : List Bool :=
  text.flatMap fun byte => bits 8 byte.toNat

/-- The polynomial that is divided by. -/
noncomputable def generator : (ZMod 2)[X] :=
  X ^ 32 + (X ^ 26 + X ^ 23 + X ^ 22 + X ^ 16 + X ^ 12 + X ^ 11 + X ^ 10 + X ^ 8 + X ^ 7 + X ^ 5 +
    X ^ 4 + X ^ 2 + X + 1)

theorem length_bits (count n : Nat) : (bits count n).length = count := by
  induction count generalizing n with
  | zero => rfl
  | succ count ih => rw [bits, List.length_cons, ih]

theorem length_message (text : Bytes) : (message text).length = 8 * text.length := by
  induction text with
  | nil => rfl
  | cons byte text ih =>
    rw [message, List.flatMap_cons, List.length_append, length_bits, ← message, ih,
      List.length_cons]
    omega

theorem polynomial_append (front back : List Bool) :
    polynomial (front ++ back) = polynomial front * X ^ back.length + polynomial back := by
  induction front with
  | nil => simp [polynomial]
  | cons bit front ih =>
    rw [List.cons_append, polynomial, polynomial, ih, List.length_append]
    split <;> ring

theorem polynomial_replicate_false (count : Nat) :
    polynomial (List.replicate count false) = 0 := by
  induction count with
  | zero => rfl
  | succ count ih => rw [List.replicate_succ, polynomial, ih]; simp

theorem degree_polynomial_lt (cs : List Bool) : (polynomial cs).degree < cs.length := by
  induction cs with
  | nil => simp [polynomial]
  | cons bit rest ih =>
    rw [polynomial, List.length_cons]
    refine (degree_add_le _ _).trans_lt (max_lt ?_ (ih.trans ?_))
    · split
      next =>
        rw [degree_X_pow]
        exact_mod_cast Nat.lt_succ_self _
      next => simp
    · exact_mod_cast Nat.lt_succ_self _

/-- Above its length a number has no bits. -/
theorem bits_add {count n : Nat} (small : n < 2 ^ count) (more : Nat) :
    bits (count + more) n = bits count n ++ List.replicate more false := by
  induction count generalizing n with
  | zero =>
    obtain rfl : n = 0 := by simpa using small
    rw [Nat.zero_add]
    induction more with
    | zero => rfl
    | succ more ih => simpa [bits, List.replicate_succ] using ih
  | succ count ih =>
    have half : n / 2 < 2 ^ count := by
      rw [Nat.pow_succ] at small
      omega
    rw [Nat.add_right_comm, bits, bits, ih half, List.cons_append]

theorem polynomial_xor (count a b : Nat) :
    polynomial (bits count (a ^^^ b)) = polynomial (bits count a) + polynomial (bits count b) := by
  induction count generalizing a b with
  | zero => simp [bits, polynomial]
  | succ count ih =>
    have half : (a ^^^ b) / 2 = a / 2 ^^^ b / 2 := Nat.xor_div_two
    have low : (a ^^^ b) % 2 = (a + b) % 2 := Nat.xor_mod_two_eq
    have twice : (X ^ count : (ZMod 2)[X]) + X ^ count = 0 := CharTwo.add_self_eq_zero _
    rw [bits, bits, bits, polynomial, polynomial, polynomial, half, ih, low]
    simp only [length_bits]
    rcases Nat.mod_two_eq_zero_or_one a with ha | ha <;>
      rcases Nat.mod_two_eq_zero_or_one b with hb | hb <;>
      simp [Nat.add_mod, ha, hb]
    · ring
    · ring
    · linear_combination -twice

/-- The bits of a checksum under way. -/
noncomputable def register (crc : UInt32) : (ZMod 2)[X] :=
  polynomial (bits 32 crc.toNat)

theorem register_xor (a b : UInt32) : register (a ^^^ b) = register a + register b := by
  rw [register, UInt32.toNat_xor, polynomial_xor, ← register, ← register]

/-- The reflected polynomial is the generator without its highest power. -/
theorem register_reflected : register 0xEDB88320 + X ^ 32 = generator := by
  have digits : bits 32 (0xEDB88320 : UInt32).toNat =
      [false, false, false, false, false, true, false, false, true, true, false, false, false, false,
        false, true, false, false, false, true, true, true, false, true, true, false, true, true,
        false, true, true, true] := by decide
  rw [register, digits, generator]
  simp only [polynomial, List.length_cons, List.length_nil, if_true, Bool.false_eq_true, if_false]
  ring

/-- Moving the bits down multiplies by `X`, apart from the bit that falls out. -/
theorem register_shift (crc : UInt32) :
    register crc * X = (if crc.toNat % 2 = 1 then X ^ 32 else 0) + register (crc >>> 1) := by
  have half : (crc >>> 1).toNat = crc.toNat / 2 := by
    rw [UInt32.toNat_shiftRight]
    exact Nat.shiftRight_eq_div_pow _ _
  have longer : bits (32 + 1) crc.toNat = bits 32 crc.toNat ++ List.replicate 1 false :=
    bits_add crc.toNat_lt 1
  have both := congrArg polynomial longer
  rw [polynomial_append, polynomial_replicate_false, add_zero, List.length_replicate, pow_one,
    ← register] at both
  rw [← both, bits, polynomial, length_bits, register, half]
  simp

theorem register_checksumBit (crc : UInt32) :
    register (checksumBit crc) =
      register crc * X + if crc.toNat % 2 = 1 then generator else 0 := by
  have low : crc &&& 1 = 1 ↔ crc.toNat % 2 = 1 := by
    rw [← UInt32.toNat_inj, UInt32.toNat_and, UInt32.toNat_one, Nat.and_one_is_mod]
  have twice : (X ^ 32 : (ZMod 2)[X]) + X ^ 32 = 0 := CharTwo.add_self_eq_zero _
  rw [checksumBit, register_shift, ← register_reflected]
  simp only [low]
  split
  next =>
    rw [register_xor]
    linear_combination -twice
  next => simp

theorem register_byte (byte : UInt8) :
    register byte.toUInt32 = polynomial (bits 8 byte.toNat) * X ^ 24 := by
  have longer : bits (8 + 24) byte.toNat = bits 8 byte.toNat ++ List.replicate 24 false :=
    bits_add byte.toNat_lt 24
  rw [register, UInt8.toNat_toUInt32, longer, polynomial_append, polynomial_replicate_false,
    add_zero, List.length_replicate]

section
variable {A : Type} [CommRing A] {residue : (ZMod 2)[X] →+* A} (vanishes : residue generator = 0)
include vanishes

theorem residue_checksumBit (crc : UInt32) :
    residue (register (checksumBit crc)) = residue (register crc) * residue X := by
  rw [register_checksumBit, map_add, map_mul]
  split <;> simp [vanishes]

theorem residue_repeat (count : Nat) (crc : UInt32) :
    residue (register (Nat.repeat checksumBit count crc)) =
      residue (register crc) * residue X ^ count := by
  induction count with
  | zero => simp [Nat.repeat]
  | succ count ih => rw [Nat.repeat, residue_checksumBit vanishes, ih, pow_succ, mul_assoc]

theorem residue_checksumByte (crc : UInt32) (byte : UInt8) :
    residue (register (checksumByte crc byte)) =
      residue (register crc * X ^ 8 + polynomial (bits 8 byte.toNat) * X ^ 32) := by
  rw [checksumByte, residue_repeat vanishes, register_xor, register_byte, ← map_pow, ← map_mul]
  exact congrArg residue (by ring)

/-- Multiples of the generator apart, the bits of a text come behind those of the checksum so far. -/
theorem residue_foldl (crc : UInt32) (text : Bytes) :
    residue (register (text.foldl checksumByte crc)) =
      residue (register crc * X ^ (8 * text.length) + polynomial (message text) * X ^ 32) := by
  induction text generalizing crc with
  | nil => simp [message, polynomial]
  | cons byte text ih =>
    have parts : polynomial (message (byte :: text)) =
        polynomial (bits 8 byte.toNat) * X ^ (8 * text.length) + polynomial (message text) := by
      rw [message, List.flatMap_cons, polynomial_append, ← message, length_message]
    have places : 8 * (byte :: text).length = 8 + 8 * text.length := by
      rw [List.length_cons]
      omega
    rw [List.foldl_cons, ih, map_add, map_mul, residue_checksumByte vanishes, ← map_mul, ← map_add,
      parts, places]
    exact congrArg residue (by ring)

end

theorem generator_monic : generator.Monic := by
  rw [generator]
  monicity!

theorem degree_generator : generator.degree = 32 := by
  rw [generator]
  compute_degree!

/-- The checksum of a text is what the division of its bits, thirty-two places up and with the first
thirty-two turned over, leaves as the remainder, turned over. -/
theorem polynomial_checksum (text : Bytes) :
    polynomial (bits 32 (checksum text).toNat) =
      (polynomial (List.replicate 32 true) * X ^ (8 * text.length) +
          polynomial (message text) * X ^ 32) %ₘ generator +
        polynomial (List.replicate 32 true) := by
  have ones : register 0xFFFFFFFF = polynomial (List.replicate 32 true) := by
    rw [register, show bits 32 (0xFFFFFFFF : UInt32).toNat = List.replicate 32 true by decide]
  have vanishes : AdjoinRoot.mk generator generator = 0 := AdjoinRoot.mk_self
  have left := residue_foldl vanishes 0xFFFFFFFF text
  have same := (modByMonic_eq_of_dvd_sub generator_monic (AdjoinRoot.mk_eq_mk.mp left)).symm
  have short : (register (text.foldl checksumByte 0xFFFFFFFF)).degree < generator.degree := by
    rw [degree_generator]
    have bound := degree_polynomial_lt (bits 32 (text.foldl checksumByte 0xFFFFFFFF).toNat)
    rwa [length_bits] at bound
  rw [(modByMonic_eq_self_iff generator_monic).mpr short, ones] at same
  rw [same, ← ones, ← register, checksum, register_xor]

end TelemetryRelay.Gzip
