import TelemetryRelay.Proofs.Text.Splitting
import TelemetryRelay.Proofs.Url.Names
import TelemetryRelay.Url.Form

namespace TelemetryRelay.Percent

theorem decodeOnto_cons {b : UInt8} (other : b ≠ 0x25) (done rest : Bytes) :
    decodeOnto done (b :: rest) = decodeOnto (b :: done) rest := by
  rw [decodeOnto]
  intro a c tail eq
  exact absurd eq other

theorem hexValue?_hexDigit : ∀ d < 16,
    hexValue? (Char.ofNat (Utf8.asciiByte (hexDigit d)).toNat) = some d := by decide

/-- An encoded byte is read back, whatever follows it. -/
theorem decodeOnto_encodeByte (b : UInt8) (done rest : Bytes) :
    decodeOnto done ((encodeByte b).map Utf8.asciiByte ++ rest) = decodeOnto (b :: done) rest := by
  have bound : b.toNat < 256 := b.toNat_lt
  have high := hexValue?_hexDigit (b.toNat / 16) (by omega)
  have low := hexValue?_hexDigit (b.toNat % 16) (by omega)
  have whole : b.toNat / 16 * 16 + b.toNat % 16 = b.toNat := by omega
  change decodeOnto done (0x25 :: _ :: _ :: rest) = _
  rw [decodeOnto, high, low]
  simp only [whole, UInt8.ofNat_toNat]

end TelemetryRelay.Percent

namespace TelemetryRelay.Form

/-- A plus sign stands for a space. -/
def spaced (c : Char) : Char :=
  if c == '+' then ' ' else c

/-- What holds of every byte is seen by going through them. -/
theorem forall_byte {P : UInt8 → Prop} (h : ∀ n < 256, P (UInt8.ofNat n)) (b : UInt8) : P b :=
  UInt8.ofNat_toNat (x := b) ▸ h b.toNat b.toNat_lt

theorem asciiByte_of_isPlain {b : UInt8} (plain : isPlain b = true) :
    Utf8.asciiByte (spaced (Char.ofNat b.toNat)) = b ∧ b ≠ 0x25 :=
  forall_byte (P := fun b => isPlain b = true →
    Utf8.asciiByte (spaced (Char.ofNat b.toNat)) = b ∧ b ≠ 0x25) (by decide +kernel) b plain

theorem spaced_encodeByte (b : UInt8) :
    (Percent.encodeByte b).map spaced = Percent.encodeByte b :=
  forall_byte (P := fun b => (Percent.encodeByte b).map spaced = Percent.encodeByte b)
    (by decide +kernel) b

/-- A written byte is read back, whatever follows it. -/
theorem decodeOnto_encodeByte (b : UInt8) (done rest : Bytes) :
    Percent.decodeOnto done (((encodeByte b).map spaced).map Utf8.asciiByte ++ rest) =
      Percent.decodeOnto (b :: done) rest := by
  unfold encodeByte
  split
  next plain =>
    obtain ⟨same, other⟩ := asciiByte_of_isPlain plain
    rw [List.map_singleton, List.map_singleton, same, List.singleton_append,
      Percent.decodeOnto_cons other]
  next =>
    split
    next space =>
      obtain rfl := beq_iff_eq.mp space
      exact Percent.decodeOnto_cons (by decide) done rest
    next => rw [spaced_encodeByte, Percent.decodeOnto_encodeByte]

theorem decodeOnto_flatMap (done bytes : Bytes) :
    Percent.decodeOnto done (((bytes.flatMap encodeByte).map spaced).map Utf8.asciiByte) =
      done.reverse ++ bytes := by
  induction bytes generalizing done with
  | nil => simp [Percent.decodeOnto]
  | cons b rest ih =>
    rw [List.flatMap_cons, List.map_append, List.map_append, decodeOnto_encodeByte, ih]
    simp

/-- Whether a character may stand in the written form of a text. -/
def isWritten (c : Char) : Bool :=
  Url.isQuiet c && c != '&' && c != '='

theorem isWritten_encodeByte (b : UInt8) : ∀ c ∈ encodeByte b, isWritten c = true :=
  List.all_eq_true.mp
    (forall_byte (P := fun b => (encodeByte b).all isWritten = true) (by decide +kernel) b)

/-- What a text is written as separates nothing. -/
theorem isQuiet_encodeText (text : String) : ∀ c ∈ encodeText text,
    Url.isQuiet c = true ∧ c ≠ '&' ∧ c ≠ '=' := by
  intro c mem
  obtain ⟨b, _, inside⟩ := List.mem_flatMap.mp mem
  simpa [isWritten, and_assoc] using isWritten_encodeByte b c inside

/-- A text is read back from its written form. -/
theorem decodeText_encodeText (text : String) : decodeText (encodeText text) = text := by
  have ascii : ∀ c ∈ (encodeText text).map spaced, c.toNat < 0x80 := by
    intro c mem
    obtain ⟨d, inside, rfl⟩ := List.mem_map.mp mem
    exact Url.forall_isQuiet (P := fun d => (spaced d).toNat < 0x80) (by decide)
      (isQuiet_encodeText text d inside).1
  change Utf8.decodeLossy (Percent.decode (Utf8.encode
    (String.ofList ((encodeText text).map spaced)))) = text
  rw [Utf8.encode_ascii ascii, Percent.decode, encodeText, decodeOnto_flatMap, List.reverse_nil,
    List.nil_append, Utf8.decodeLossy_encode]

theorem decodePair_encodePair (pair : String × String) : decodePair (encodePair pair) = pair := by
  obtain ⟨name, value⟩ := pair
  have free : '=' ∉ encodeText name := fun mem => (isQuiet_encodeText name _ mem).2.2 rfl
  rw [decodePair, encodePair, Text.splitFirst_append free]
  simp only [decodeText_encodeText]

theorem isQuiet_encodePair (pair : String × String) : ∀ c ∈ encodePair pair,
    Url.isQuiet c = true ∧ c ≠ '&' := by
  intro c mem
  rcases List.mem_append.mp mem with inside | inside
  · exact ⟨(isQuiet_encodeText _ c inside).1, (isQuiet_encodeText _ c inside).2.1⟩
  · rcases List.mem_cons.mp inside with rfl | inside
    · decide
    · exact ⟨(isQuiet_encodeText _ c inside).1, (isQuiet_encodeText _ c inside).2.1⟩

/-- Pairs are read back from their written form. -/
theorem decode_encode (pairs : List (String × String)) : decode (encode pairs) = pairs := by
  cases pairs with
  | nil => rfl
  | cons first rest =>
    let parts := (first :: rest).map encodePair
    have apart : ∀ part ∈ parts, '&' ∉ part := by
      intro part mem inside
      obtain ⟨pair, _, rfl⟩ := List.mem_map.mp mem
      exact (isQuiet_encodePair pair _ inside).2 rfl
    have filled : parts.filter (fun part => !part.isEmpty) = parts := by
      refine List.filter_eq_self.mpr fun part mem => ?_
      obtain ⟨pair, _, rfl⟩ := List.mem_map.mp mem
      simp [encodePair]
    have back : decodePair ∘ encodePair = id := funext decodePair_encodePair
    rw [decode, encode, List.splitOn_intercalate '&' apart (List.cons_ne_nil _ _), filled,
      List.map_map, back, List.map_id]

theorem isQuiet_encode (pairs : List (String × String)) : ∀ c ∈ encode pairs,
    Url.isQuiet c = true := by
  induction pairs with
  | nil => simp [encode]
  | cons first rest ih =>
    have head : ∀ c ∈ encodePair first, Url.isQuiet c = true :=
      fun c mem => (isQuiet_encodePair first c mem).1
    cases rest with
    | nil => simpa [encode] using head
    | cons second rest =>
      have joined : encode (first :: second :: rest) =
          encodePair first ++ ['&'] ++ encode (second :: rest) := List.intercalate_cons_cons
      rw [joined, List.forall_mem_append, List.forall_mem_append, List.forall_mem_singleton]
      exact ⟨⟨head, rfl⟩, ih⟩

end TelemetryRelay.Form
