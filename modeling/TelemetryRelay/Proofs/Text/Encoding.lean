import TelemetryRelay.Text.Utf8

namespace TelemetryRelay.Utf8

theorem toList_loop (bytes : ByteArray) (i : Nat) (done : Bytes) :
    ByteArray.toList.loop bytes i done = done.reverse ++ bytes.data.toList.drop i := by
  fun_induction ByteArray.toList.loop bytes i done with
  | case1 i done inside ih =>
    have bound : i < bytes.data.toList.length := by simpa using inside
    have next : bytes.data.toList.drop i = bytes.get! i :: bytes.data.toList.drop (i + 1) := by
      rw [List.drop_eq_getElem_cons bound]
      simp [ByteArray.get!, inside]
    rw [ih, next, List.reverse_cons, List.append_assoc, List.singleton_append]
  | case2 i done outside =>
    have bound : bytes.data.toList.length ≤ i := by simpa using Nat.le_of_not_lt outside
    rw [List.drop_eq_nil_of_le bound, List.append_nil]

theorem encode_eq (text : String) : encode text = text.toList.flatMap String.utf8EncodeChar := by
  have plain : text.toUTF8.toList = text.toUTF8.data.toList := toList_loop text.toUTF8 0 []
  rw [encode, plain, String.toUTF8_eq_toByteArray, ← String.utf8Encode_toList]
  exact List.toList_data_toByteArray

/-- The small bytes of a character are those of ASCII. -/
theorem toNat_of_mem_encodeChar {c : Char} {b : UInt8} (h : b ∈ String.utf8EncodeChar c)
    (small : b.toNat < 0x80) : b.toNat = c.toNat := by
  have value : c.val.toNat = c.toNat := rfl
  unfold String.utf8EncodeChar at h
  simp only [value] at h
  split at h
  · simp only [List.mem_singleton] at h
    rw [h, UInt8.toNat_ofNat']
    omega
  · exfalso
    split at h
    · simp only [List.mem_cons, List.not_mem_nil, or_false] at h
      rcases h with h | h <;> rw [h, UInt8.toNat_ofNat'] at small <;> omega
    · split at h
      · simp only [List.mem_cons, List.not_mem_nil, or_false] at h
        rcases h with h | h | h <;> rw [h, UInt8.toNat_ofNat'] at small <;> omega
      · simp only [List.mem_cons, List.not_mem_nil, or_false] at h
        rcases h with h | h | h | h <;> rw [h, UInt8.toNat_ofNat'] at small <;> omega

/-- A byte of ASCII is among the bytes of a text only if its character is in the text. -/
theorem mem_of_mem_encode {text : String} {b : UInt8} (h : b ∈ encode text)
    (small : b.toNat < 0x80) : Char.ofNat b.toNat ∈ text.toList := by
  rw [encode_eq] at h
  obtain ⟨c, hc, hb⟩ := List.mem_flatMap.mp h
  rw [toNat_of_mem_encodeChar hb small, Char.ofNat_toNat]
  exact hc

theorem encode_ne_nil {text : String} (h : text.toList ≠ []) : encode text ≠ [] := by
  rw [encode_eq]
  intro empty
  obtain ⟨c, rest, eq⟩ := List.exists_cons_of_ne_nil h
  rw [eq, List.flatMap_cons, List.append_eq_nil_iff] at empty
  exact String.utf8EncodeChar_ne_nil empty.1

theorem encodeChar_ascii {c : Char} (h : c.toNat < 0x80) :
    String.utf8EncodeChar c = [UInt8.ofNat c.toNat] := by
  have value : c.val.toNat = c.toNat := rfl
  simp only [String.utf8EncodeChar, value]
  rw [if_pos (by omega)]

/-- The byte of a character of ASCII. -/
def asciiByte (c : Char) : UInt8 :=
  UInt8.ofNat c.toNat

theorem encode_ascii {cs : List Char} (ascii : ∀ c ∈ cs, c.toNat < 0x80) :
    encode (String.ofList cs) = cs.map asciiByte := by
  rw [encode_eq, String.toList_ofList]
  induction cs with
  | nil => rfl
  | cons c rest ih =>
    obtain ⟨first, later⟩ := List.forall_mem_cons.mp ascii
    rw [List.flatMap_cons, encodeChar_ascii first, ih later]
    rfl

theorem decodeLossyOnto_ascii {done : List Char} {c : Char} {bytes : Bytes}
    (h : c.toNat < 0x80) :
    decodeLossyOnto done (UInt8.ofNat c.toNat :: bytes) = decodeLossyOnto (c :: done) bytes := by
  have number : (UInt8.ofNat c.toNat).toNat = c.toNat := by
    rw [UInt8.toNat_ofNat']
    omega
  have small : UInt8.ofNat c.toNat < 0x80 := by
    rw [UInt8.lt_iff_toNat_lt, number]
    exact h
  have lead : continuation (UInt8.ofNat c.toNat) = some (0, 0x80, 0xBF) := if_pos small
  have spelt : assemble (UInt8.ofNat c.toNat) [] = c := by
    simp [assemble, number]
  rw [decodeLossyOnto, lead]
  simp only [continuing, List.length_nil, if_true, spelt, List.drop_zero]

/-- A byte after the first one of a character; it holds six bits. -/
def trailing (n : Nat) : UInt8 :=
  UInt8.ofNat (n % 64 + 128)

theorem toNat_trailing (n : Nat) : (trailing n).toNat = n % 64 + 128 := by
  rw [trailing, UInt8.toNat_ofNat']
  omega

theorem continuing_cons {count : Nat} {low high b : UInt8} (least : low.toNat ≤ b.toNat)
    (most : b.toNat ≤ high.toNat) (rest : Bytes) :
    continuing (count + 1) low high (b :: rest) = b :: continuing count 0x80 0xBF rest :=
  if_pos ⟨UInt8.le_iff_toNat_le.mpr least, UInt8.le_iff_toNat_le.mpr most⟩

theorem continuing_trailing (ns : List Nat) (bytes : Bytes) :
    continuing ns.length 0x80 0xBF (ns.map trailing ++ bytes) = ns.map trailing := by
  induction ns with
  | nil =>
    unfold continuing
    rfl
  | cons n ns ih =>
    have number := toNat_trailing n
    have least : (0x80 : UInt8).toNat = 128 := rfl
    have most : (0xBF : UInt8).toNat = 191 := rfl
    rw [List.map_cons, List.cons_append, List.length_cons, continuing_cons (by omega) (by omega),
      ih]

/-- A first byte with as many others as it asks for is read as one character. -/
theorem decodeLossyOnto_cons {lead low high : UInt8} (n : Nat) (ns : List Nat)
    (starts : continuation lead = some (ns.length + 1, low, high))
    (least : low.toNat ≤ n % 64 + 128) (most : n % 64 + 128 ≤ high.toNat) (done : List Char)
    (bytes : Bytes) :
    decodeLossyOnto done (lead :: ((n :: ns).map trailing ++ bytes)) =
      decodeLossyOnto (assemble lead ((n :: ns).map trailing) :: done) bytes := by
  rw [← toNat_trailing] at least most
  have taken : continuing (ns.length + 1) low high ((n :: ns).map trailing ++ bytes) =
      (n :: ns).map trailing := by
    rw [List.map_cons, List.cons_append, continuing_cons least most, continuing_trailing]
  rw [decodeLossyOnto, starts]
  simp only [taken]
  rw [if_pos (by simp), List.drop_left]

theorem continuation_two : ∀ a < 32, 2 ≤ a →
    continuation (UInt8.ofNat (a + 192)) = some (1, 0x80, 0xBF) := by decide

/-- Neither a shorter form nor half of a pair may follow. -/
theorem continuation_three : ∀ a < 16, continuation (UInt8.ofNat (a + 224)) =
    some (2, if a = 0 then 0xA0 else 0x80, if a = 13 then 0x9F else 0xBF) := by decide

theorem continuation_four : ∀ a < 5, continuation (UInt8.ofNat (a + 240)) =
    some (3, if a = 0 then 0x90 else 0x80, if a = 4 then 0x8F else 0xBF) := by decide

section
variable {n : Nat} (done : List Char) (bytes : Bytes)

theorem decodeLossyOnto_two (long : 127 < n) (short : n ≤ 2047) :
    decodeLossyOnto done (UInt8.ofNat (n / 64 % 32 + 192) :: ([n].map trailing ++ bytes)) =
      decodeLossyOnto (Char.ofNat n :: done) bytes := by
  have starts := continuation_two (n / 64 % 32) (by omega) (by omega)
  have lead : (UInt8.ofNat (n / 64 % 32 + 192)).toNat = n / 64 % 32 + 192 := by
    rw [UInt8.toNat_ofNat']
    omega
  have spelt : assemble (UInt8.ofNat (n / 64 % 32 + 192)) ([n].map trailing) = Char.ofNat n := by
    refine congrArg Char.ofNat ?_
    simp only [lead, toNat_trailing, List.map_cons, List.map_nil, List.length_cons,
      List.length_nil, List.foldl_cons, List.foldl_nil]
    omega
  have number : n % 64 + 128 ≤ 191 := by omega
  rw [decodeLossyOnto_cons n [] starts (Nat.le_add_left _ _) number, spelt]

theorem decodeLossyOnto_three (long : 2047 < n) (short : n ≤ 65535)
    (valid : n < 55296 ∨ 57343 < n) :
    decodeLossyOnto done
      (UInt8.ofNat (n / 4096 % 16 + 224) :: ([n / 64, n].map trailing ++ bytes)) =
        decodeLossyOnto (Char.ofNat n :: done) bytes := by
  have starts := continuation_three (n / 4096 % 16) (by omega)
  have lead : (UInt8.ofNat (n / 4096 % 16 + 224)).toNat = n / 4096 % 16 + 224 := by
    rw [UInt8.toNat_ofNat']
    omega
  have spelt : assemble (UInt8.ofNat (n / 4096 % 16 + 224)) ([n / 64, n].map trailing) =
      Char.ofNat n := by
    refine congrArg Char.ofNat ?_
    simp only [lead, toNat_trailing, List.map_cons, List.map_nil, List.length_cons,
      List.length_nil, List.foldl_cons, List.foldl_nil]
    omega
  rw [decodeLossyOnto_cons (n / 64) [n] starts, spelt]
  · split
    next =>
      simp
      omega
    next => simp
  · split <;> (simp; omega)

theorem decodeLossyOnto_four (long : 65535 < n) (short : n < 1114112) :
    decodeLossyOnto done
      (UInt8.ofNat (n / 262144 % 8 + 240) ::
        ([n / 4096, n / 64, n].map trailing ++ bytes)) =
          decodeLossyOnto (Char.ofNat n :: done) bytes := by
  have starts := continuation_four (n / 262144 % 8) (by omega)
  have lead : (UInt8.ofNat (n / 262144 % 8 + 240)).toNat = n / 262144 % 8 + 240 := by
    rw [UInt8.toNat_ofNat']
    omega
  have spelt : assemble (UInt8.ofNat (n / 262144 % 8 + 240))
      ([n / 4096, n / 64, n].map trailing) = Char.ofNat n := by
    refine congrArg Char.ofNat ?_
    simp only [lead, toNat_trailing, List.map_cons, List.map_nil, List.length_cons,
      List.length_nil, List.foldl_cons, List.foldl_nil]
    omega
  rw [decodeLossyOnto_cons (n / 4096) [n / 64, n] starts, spelt]
  · split
    next =>
      simp
      omega
    next => simp
  · split <;> (simp; omega)

/-- A character is read back from its bytes, whatever follows them. -/
theorem decodeLossyOnto_encodeChar (c : Char) :
    decodeLossyOnto done (String.utf8EncodeChar c ++ bytes) =
      decodeLossyOnto (c :: done) bytes := by
  have value : c.val.toNat = c.toNat := rfl
  have valid : c.toNat < 55296 ∨ 57343 < c.toNat ∧ c.toNat < 1114112 := c.valid
  have same := Char.ofNat_toNat c
  by_cases one : c.toNat < 128
  · rw [encodeChar_ascii one, List.singleton_append, decodeLossyOnto_ascii one]
  · simp only [String.utf8EncodeChar, value]
    generalize c.toNat = n at one valid same
    subst same
    rw [if_neg (by omega)]
    split
    next short => exact decodeLossyOnto_two done bytes (by omega) short
    next long =>
      split
      next short => exact decodeLossyOnto_three done bytes (by omega) short (by omega)
      next more => exact decodeLossyOnto_four done bytes (by omega) (by omega)

end

theorem decodeLossyOnto_flatMap (done cs : List Char) :
    decodeLossyOnto done (cs.flatMap String.utf8EncodeChar) = done.reverse ++ cs := by
  induction cs generalizing done with
  | nil => simp [decodeLossyOnto]
  | cons c rest ih =>
    rw [List.flatMap_cons, decodeLossyOnto_encodeChar, ih]
    simp

/-- A text is read back from its bytes. -/
theorem decodeLossy_encode (text : String) : decodeLossy (encode text) = text := by
  rw [decodeLossy, encode_eq, decodeLossyOnto_flatMap, List.reverse_nil, List.nil_append,
    String.ofList_toList]

end TelemetryRelay.Utf8
