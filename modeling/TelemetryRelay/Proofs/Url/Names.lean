import TelemetryRelay.Proofs.Text.Encoding
import TelemetryRelay.Url.Host

namespace TelemetryRelay.Percent

/-- Bytes without a percent sign stand for themselves. -/
theorem decodeOnto_eq {done bytes : Bytes} (plain : 0x25 ∉ bytes) :
    decodeOnto done bytes = done.reverse ++ bytes := by
  induction bytes generalizing done with
  | nil => simp [decodeOnto]
  | cons b rest ih =>
    obtain ⟨first, later⟩ := not_or.mp (mt List.mem_cons.mpr plain)
    rw [decodeOnto, ih later]
    · simp
    · intro a c tail eq
      exact absurd eq.symm first

end TelemetryRelay.Percent

namespace TelemetryRelay.Url

/-- Whether a character is one of plain names: a letter or digit of ASCII, a hyphen or a point. -/
def isPlain (c : Char) : Bool :=
  c.isAlphanum || c == '-' || c == '.'

theorem toNat_of_isAlphanum {c : Char} (h : c.isAlphanum = true) : c.toNat < 0x80 := by
  have below : ∀ top : UInt32, top.toNat < 0x80 → c.val ≤ top → c.toNat < 0x80 :=
    fun top small le => Nat.lt_of_le_of_lt (UInt32.le_iff_toNat_le.mp le) small
  rcases Bool.or_eq_true_iff.mp h with alpha | digit
  · rcases Bool.or_eq_true_iff.mp alpha with upper | lower
    · exact below 'Z'.val (by decide) (of_decide_eq_true upper).2
    · exact below 'z'.val (by decide) (of_decide_eq_true (Bool.and_eq_true_iff.mp lower).2)
  · exact below '9'.val (by decide) (of_decide_eq_true (Bool.and_eq_true_iff.mp digit).2)

theorem toNat_of_isPlain {c : Char} (h : isPlain c = true) : c.toNat < 0x80 := by
  have kinds : (c.isAlphanum = true ∨ c = '-') ∨ c = '.' := by simpa [isPlain] using h
  rcases kinds with (letter | rfl) | rfl
  · exact toNat_of_isAlphanum letter
  · decide
  · decide

/-- What holds of every character of ASCII is seen by going through them. -/
theorem forall_ascii {P : Char → Prop} (h : ∀ n < 0x80, P (Char.ofNat n)) {c : Char}
    (ascii : c.toNat < 0x80) : P c :=
  Char.ofNat_toNat c ▸ h c.toNat ascii

theorem forall_isPlain {P : Char → Prop}
    (h : ∀ n < 0x80, isPlain (Char.ofNat n) = true → P (Char.ofNat n)) {c : Char}
    (plain : isPlain c = true) : P c :=
  forall_ascii (P := fun c => isPlain c = true → P c) h (toNat_of_isPlain plain) plain

/-- Whether a character ends neither a place nor a path nor a query, and stands in each of them as it
is. -/
def isQuiet (c : Char) : Bool :=
  c.isAlphanum || "-._*+%&=:".toList.contains c

theorem forall_isQuiet {P : Char → Prop}
    (h : ∀ n < 0x80, isQuiet (Char.ofNat n) = true → P (Char.ofNat n)) {c : Char}
    (quiet : isQuiet c = true) : P c := by
  have ascii : c.toNat < 0x80 := by
    rcases Bool.or_eq_true_iff.mp quiet with letter | mark
    · exact toNat_of_isAlphanum letter
    · have marks : ∀ c ∈ "-._*+%&=:".toList, isAscii c = true := List.all_eq_true.mp (by decide)
      exact of_decide_eq_true (marks c (List.contains_iff_mem.mp mark))
  exact forall_ascii (P := fun c => isQuiet c = true → P c) h ascii quiet

theorem isPlain_toLower {c : Char} (h : isPlain c = true) : isPlain c.toLower = true :=
  forall_isPlain (P := fun c => isPlain c.toLower = true) (by decide) h

theorem isForbidden_of_isPlain {c : Char} (h : isPlain c = true) : isForbidden c = false :=
  forall_isPlain (P := fun c => isForbidden c = false) (by decide) h

/-- A plain name that is not the code of another one is looked up in small letters. -/
theorem readSpecial_plain {name : List Char} (plain : ∀ c ∈ name, isPlain c = true)
    (no_code : ((name.map Char.toLower).splitOn '.').any isEncoded = false) :
    Host.readSpecial name =
      if name.isEmpty then .error .emptyHost
      else if Host.endsInNumber (name.map Char.toLower) then
        (Host.readIpv4 (name.map Char.toLower)).map .ipv4
      else .ok (.name (String.ofList (name.map Char.toLower))) := by
  have ascii : ∀ c ∈ name, c.toNat < 0x80 := fun c mem => toNat_of_isPlain (plain c mem)
  have no_percent : 0x25 ∉ Utf8.encode (String.ofList name) := by
    intro mem
    have found := Utf8.mem_of_mem_encode mem (by decide)
    rw [String.toList_ofList] at found
    exact absurd (plain _ found) (by decide)
  have no_bracket : Host.readBracketed? name = none := by
    unfold Host.readBracketed?
    split
    next rest => exact absurd (plain '[' List.mem_cons_self) (by decide)
    next => rfl
  have text : Utf8.decodeLossy (Percent.decode (Utf8.encode (String.ofList name))) =
      String.ofList name := by
    rw [Percent.decode, Percent.decodeOnto_eq no_percent, List.reverse_nil, List.nil_append,
      Utf8.decodeLossy_encode]
  have allowed : (name.map Char.toLower).any isForbidden = false := by
    rw [List.any_eq_false]
    intro c mem
    obtain ⟨d, inside, rfl⟩ := List.mem_map.mp mem
    simp [isForbidden_of_isPlain (isPlain_toLower (plain d inside))]
  have found : lookupName name = .ok (name.map Char.toLower) := by
    have all : name.all isAscii = true :=
      List.all_eq_true.mpr fun c mem => decide_eq_true (ascii c mem)
    simp only [lookupName, all, no_code, allowed, Bool.not_false, Bool.and_true, if_true,
      Bool.false_eq_true, if_false]
  rw [Host.readSpecial, no_bracket]
  simp only [text, String.toList_ofList, found, bind, Except.bind, List.isEmpty_map]
  cases name.isEmpty <;> cases Host.endsInNumber (name.map Char.toLower) <;>
    cases Host.readIpv4 (name.map Char.toLower) <;> rfl

theorem readSpecial_nil : Host.readSpecial [] = .error .emptyHost :=
  readSpecial_plain (by simp) (by decide)

end TelemetryRelay.Url
