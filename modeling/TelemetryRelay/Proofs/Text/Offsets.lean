import Mathlib.Data.List.Infix
import TelemetryRelay.Proofs.Text.Encoding

namespace TelemetryRelay.Utf8

@[simp] theorem size_nil : size [] = 0 := rfl

theorem foldl_utf8Size (start : Nat) (cs : List Char) :
    cs.foldl (fun n c => n + c.utf8Size) start = start + size cs := by
  induction cs generalizing start with
  | nil => rfl
  | cons c cs ih =>
    rw [size, List.foldl_cons, List.foldl_cons, ih, ih (0 + c.utf8Size)]
    omega

@[simp] theorem size_cons (c : Char) (cs : List Char) : size (c :: cs) = c.utf8Size + size cs := by
  rw [size, List.foldl_cons, foldl_utf8Size, Nat.zero_add]

@[simp] theorem size_append (front rest : List Char) :
    size (front ++ rest) = size front + size rest := by
  rw [size, List.foldl_append, foldl_utf8Size]
  rfl

theorem size_reverse (cs : List Char) : size cs.reverse = size cs := by
  induction cs with
  | nil => rfl
  | cons c cs ih =>
    rw [List.reverse_cons, size_append, ih, size_cons, size_cons, size_nil]
    omega

theorem size_replicate (count : Nat) (c : Char) :
    size (List.replicate count c) = count * c.utf8Size := by
  induction count with
  | zero => rw [List.replicate_zero, size_nil, Nat.zero_mul]
  | succ count ih => rw [List.replicate_succ, size_cons, ih, Nat.succ_mul, Nat.add_comm]

theorem length_encode (text : String) : (encode text).length = text.utf8ByteSize := by
  have plain : text.toUTF8.toList = text.toUTF8.data.toList := toList_loop text.toUTF8 0 []
  rw [encode, plain, Array.length_toList, ByteArray.size_data]
  rfl

theorem length_flatMap_encodeChar (cs : List Char) :
    (cs.flatMap String.utf8EncodeChar).length = size cs := by
  induction cs with
  | nil => rfl
  | cons c cs ih =>
    rw [List.flatMap_cons, List.length_append, ih, String.length_utf8EncodeChar, size_cons]

theorem utf8ByteSize_eq (text : String) : text.utf8ByteSize = size text.toList := by
  rw [← length_encode, encode_eq, length_flatMap_encodeChar]

theorem isBoundary_zero (cs : List Char) : isBoundary cs 0 = true := by
  cases cs <;> rfl

theorem isBoundary_cons (c : Char) (cs : List Char) (i : Nat) :
    isBoundary (c :: cs) (i + 1) =
      (c.utf8Size ≤ i + 1 && isBoundary cs (i + 1 - c.utf8Size)) := rfl

/-- What stands before an offset between two characters, and what stands behind it. -/
theorem isBoundary_iff {cs : List Char} {i : Nat} :
    isBoundary cs i = true ↔ ∃ front rest, cs = front ++ rest ∧ size front = i := by
  induction cs generalizing i with
  | nil =>
    cases i with
    | zero => simp [isBoundary]
    | succ i => simp [isBoundary]
  | cons c cs ih =>
    cases i with
    | zero => exact ⟨fun _ => ⟨[], c :: cs, rfl, rfl⟩, fun _ => rfl⟩
    | succ i =>
      rw [isBoundary_cons, Bool.and_eq_true, decide_eq_true_iff, ih]
      constructor
      · rintro ⟨fits, front, rest, rfl, size⟩
        exact ⟨c :: front, rest, rfl, by rw [size_cons, size, Nat.add_sub_cancel' fits]⟩
      · rintro ⟨front, rest, eq, size⟩
        cases front with
        | nil => simp at size
        | cons d front =>
          obtain ⟨rfl, rfl⟩ := List.cons.inj eq
          rw [size_cons] at size
          exact ⟨by omega, front, rest, rfl, by omega⟩

/-- A character has at most four bytes, so that no more than three offsets in a row lie within
one. -/
theorem exists_isBoundary {cs : List Char} {i : Nat} (within : i ≤ size cs) :
    ∃ back ≤ 3, back ≤ i ∧ isBoundary cs (i - back) = true := by
  induction cs generalizing i with
  | nil =>
    obtain rfl : i = 0 := by simpa using within
    exact ⟨0, by omega, le_rfl, rfl⟩
  | cons c cs ih =>
    have width := c.utf8Size_le_four
    rw [size_cons] at within
    by_cases fits : c.utf8Size ≤ i
    · obtain ⟨back, few, le, boundary⟩ := ih (show i - c.utf8Size ≤ size cs by omega)
      obtain ⟨front, rest, rfl, eq⟩ := isBoundary_iff.mp boundary
      refine ⟨back, few, by omega, isBoundary_iff.mpr ⟨c :: front, rest, rfl, ?_⟩⟩
      rw [size_cons]
      omega
    · exact ⟨i, by omega, le_rfl, by rw [Nat.sub_self]; exact isBoundary_zero _⟩

/-- The search goes back to a boundary, and there is none between it and where the search began. -/
theorem cutBack_spec (cs : List Char) (i : Nat) :
    cutBack cs i ≤ i ∧ isBoundary cs (cutBack cs i) = true ∧
      ∀ j ≤ i, cutBack cs i < j → isBoundary cs j = false := by
  induction i with
  | zero => exact ⟨le_rfl, isBoundary_zero cs, fun j le lt => absurd lt (by omega)⟩
  | succ i ih =>
    rw [cutBack]
    split
    next found => exact ⟨le_rfl, found, fun j le lt => absurd lt (by omega)⟩
    next inside =>
      obtain ⟨le, boundary, none_between⟩ := ih
      refine ⟨by omega, boundary, fun j le lt => ?_⟩
      rcases Nat.lt_or_eq_of_le le with less | rfl
      · exact none_between j (by omega) lt
      · simpa using inside

/-- Within a text the search ends after three steps at the latest, and so it never steps back from
the beginning. -/
theorem exists_cutBack {cs : List Char} {i : Nat} (within : i ≤ size cs) :
    ∃ back ≤ 3, back ≤ i ∧ cutBack cs i = i - back ∧ isBoundary cs (i - back) = true ∧
      ∀ j < back, isBoundary cs (i - j) = false := by
  obtain ⟨le, boundary, none_between⟩ := cutBack_spec cs i
  obtain ⟨steps, few, inside, found⟩ := exists_isBoundary within
  have near : i - steps ≤ cutBack cs i := by
    by_contra far
    rw [none_between _ (Nat.sub_le i steps) (by omega)] at found
    contradiction
  have back : cutBack cs i = i - (i - cutBack cs i) := by omega
  refine ⟨i - cutBack cs i, by omega, by omega, back, back ▸ boundary, fun j less => ?_⟩
  exact none_between _ (Nat.sub_le i j) (by omega)

theorem takeOnto_append (done front rest : List Char) :
    takeOnto done (size front) (front ++ rest) = done.reverse ++ front := by
  induction front generalizing done with
  | nil =>
    cases rest with
    | nil => simp [takeOnto]
    | cons c rest => simp [takeOnto, c.utf8Size_pos.ne']
  | cons c front ih =>
    rw [List.cons_append, takeOnto, size_cons, if_pos (Nat.le_add_right _ _),
      Nat.add_sub_cancel_left, ih]
    simp

/-- What a text is cut down to: it begins the text, has at most `limit` bytes, and everything else
that does is a beginning of it. -/
structure IsLongestWithin (limit : Nat) (text kept : String) : Prop where
  begins : kept.toList <+: text.toList
  within : kept.utf8ByteSize ≤ limit
  longest : ∀ other : String, other.toList <+: text.toList → other.utf8ByteSize ≤ limit →
    other.toList <+: kept.toList

theorem isLongestWithin_self {limit : Nat} {text : String} (short : text.utf8ByteSize ≤ limit) :
    IsLongestWithin limit text text :=
  ⟨List.prefix_rfl, short, fun _ begins _ => begins⟩

theorem truncate_of_le {limit : Nat} {text : String} (short : text.utf8ByteSize ≤ limit) :
    truncate limit text = text :=
  if_pos short

/-- A text of which only the last character goes beyond the limit. -/
theorem IsLongestWithin.eq_of_concat {limit : Nat} {front : List Char} {c : Char} {kept : String}
    (longest : IsLongestWithin limit (String.ofList (front ++ [c])) kept)
    (fits : size front ≤ limit) (beyond : limit < size front + c.utf8Size) :
    kept = String.ofList front := by
  obtain ⟨begins, within, longest⟩ := longest
  rw [String.toList_ofList, List.prefix_concat_iff] at begins
  rcases begins with whole | short
  · rw [utf8ByteSize_eq, whole] at within
    simp at within
    omega
  · have long := longest (String.ofList front) (by simp) (by simpa [utf8ByteSize_eq] using fits)
    rw [String.toList_ofList] at long
    rw [long.eq_of_length_le short.length_le, String.ofList_toList]

/-- A longer text is cut off at the boundary at which the search ends. -/
theorem exists_cut {limit : Nat} {text : String} (long : limit < text.utf8ByteSize) :
    ∃ front rest, text.toList = front ++ rest ∧ size front = cutBack text.toList limit ∧
      truncate limit text = String.ofList front := by
  obtain ⟨-, boundary, -⟩ := cutBack_spec text.toList limit
  obtain ⟨front, rest, eq, size⟩ := isBoundary_iff.mp boundary
  have taken := takeOnto_append [] front rest
  rw [← eq, size] at taken
  refine ⟨front, rest, eq, size, ?_⟩
  rw [truncate, if_neg (Nat.not_le.mpr long), taken]
  rfl

/-- Cutting a longer text off keeps as many of its bytes as there are before the boundary. -/
theorem encode_truncate {limit : Nat} {text : String} (long : limit < text.utf8ByteSize) :
    (truncate limit text).utf8ByteSize = cutBack text.toList limit ∧
      encode (truncate limit text) = (encode text).take (cutBack text.toList limit) := by
  obtain ⟨front, rest, eq, size, cut⟩ := exists_cut long
  have bytes : (encode (String.ofList front)).length = cutBack text.toList limit := by
    rw [length_encode, utf8ByteSize_eq, String.toList_ofList, size]
  rw [cut]
  refine ⟨by rw [← length_encode, bytes], ?_⟩
  rw [← bytes, encode_eq text, eq, List.flatMap_append, encode_eq, String.toList_ofList,
    List.take_left]

/-- Of two beginnings of a text, the one with fewer bytes begins the other. -/
theorem prefix_of_size_le {first second cs : List Char} (begins : first <+: cs)
    (begins' : second <+: cs) (le : size first ≤ size second) : first <+: second := by
  rcases List.prefix_or_prefix_of_prefix begins begins' with shorter | longer
  · exact shorter
  · obtain ⟨rest, rfl⟩ := longer
    rw [size_append] at le
    cases rest with
    | nil => simp
    | cons c rest =>
      have pos := c.utf8Size_pos
      rw [size_cons] at le
      omega

theorem truncate_isLongestWithin (limit : Nat) (text : String) :
    IsLongestWithin limit text (truncate limit text) := by
  rcases Nat.lt_or_ge limit text.utf8ByteSize with long | short
  · obtain ⟨front, rest, eq, size, cut⟩ := exists_cut long
    obtain ⟨le, -, none_between⟩ := cutBack_spec text.toList limit
    have begins : front <+: text.toList := ⟨rest, eq.symm⟩
    rw [cut]
    refine ⟨by rwa [String.toList_ofList], ?_, fun other begins' within => ?_⟩
    · rw [utf8ByteSize_eq, String.toList_ofList, size]
      exact le
    · rw [utf8ByteSize_eq] at within
      rw [String.toList_ofList]
      refine prefix_of_size_le begins' begins ?_
      obtain ⟨rest', eq'⟩ := begins'
      have boundary := isBoundary_iff.mpr ⟨_, _, eq'.symm, rfl⟩
      rw [size]
      by_contra more
      rw [none_between _ within (by omega)] at boundary
      contradiction
  · rw [truncate_of_le short]
    exact isLongestWithin_self short

section
variable (front middle rest : List Char)

theorem takeBytes?_cons (c : Char) (cs : List Char) (count : Nat) :
    takeBytes? (c.utf8Size + count) (c :: cs) = (takeBytes? count cs).map (c :: ·) := by
  obtain ⟨width, eq⟩ := Nat.exists_eq_succ_of_ne_zero c.utf8Size_pos.ne'
  rw [eq, Nat.succ_add, takeBytes?, if_pos (by omega), eq]
  congr 2
  omega

theorem dropBytes?_cons (c : Char) (cs : List Char) (count : Nat) :
    dropBytes? (c.utf8Size + count) (c :: cs) = dropBytes? count cs := by
  obtain ⟨width, eq⟩ := Nat.exists_eq_succ_of_ne_zero c.utf8Size_pos.ne'
  rw [eq, Nat.succ_add, dropBytes?, if_pos (by omega), eq]
  congr 1
  omega

theorem takeBytes?_append : takeBytes? (size front) (front ++ rest) = some front := by
  induction front with
  | nil => cases rest <;> rfl
  | cons c front ih => rw [List.cons_append, size_cons, takeBytes?_cons, ih, Option.map_some]

theorem dropBytes?_append : dropBytes? (size front) (front ++ rest) = some rest := by
  induction front with
  | nil => cases rest <;> rfl
  | cons c front ih => rw [List.cons_append, size_cons, dropBytes?_cons, ih]

theorem slice?_append :
    slice? (front ++ middle ++ rest) (size front) (size front + size middle) = some middle := by
  rw [slice?, if_pos (Nat.le_add_right _ _), List.append_assoc, dropBytes?_append,
    Option.bind_some, Nat.add_sub_cancel_left, takeBytes?_append]

theorem find?_append {p : Char → Bool} {c : Char} (pass : ∀ d ∈ front, p d = false)
    (stop : p c = true) : find? p (front ++ c :: rest) = some (size front) := by
  induction front with
  | nil => simp [find?, stop]
  | cons d front ih =>
    obtain ⟨first, later⟩ := List.forall_mem_cons.mp pass
    simp [find?, first, ih later]

theorem find?_eq_none {p : Char → Bool} {cs : List Char} (pass : ∀ c ∈ cs, p c = false) :
    find? p cs = none := by
  induction cs with
  | nil => rfl
  | cons c cs ih =>
    obtain ⟨first, later⟩ := List.forall_mem_cons.mp pass
    simp [find?, first, ih later]

end

theorem encode_ofList (cs : List Char) :
    encode (String.ofList cs) = cs.flatMap String.utf8EncodeChar := by
  rw [encode_eq, String.toList_ofList]

theorem drop_encode (front rest : List Char) :
    (encode (String.ofList (front ++ rest))).drop (size front) = encode (String.ofList rest) := by
  rw [encode_ofList, List.flatMap_append, ← length_flatMap_encodeChar front, List.drop_left,
    encode_ofList]

/-- The bytes of a character of ASCII begin with that character only. -/
theorem head?_encode_iff {cs : List Char} {c : Char} (ascii : c.toNat < 0x80) :
    (encode (String.ofList cs)).head? = some (UInt8.ofNat c.toNat) ↔ cs.head? = some c := by
  have number : (UInt8.ofNat c.toNat).toNat = c.toNat := by
    rw [UInt8.toNat_ofNat']
    omega
  rw [encode_ofList]
  cases cs with
  | nil => simp
  | cons d rest =>
    obtain ⟨b, bytes, eq⟩ := List.exists_cons_of_ne_nil (String.utf8EncodeChar_ne_nil (c := d))
    rw [List.flatMap_cons, eq, List.cons_append, List.head?_cons, List.head?_cons,
      Option.some.injEq, Option.some.injEq]
    constructor
    · rintro rfl
      have mem : UInt8.ofNat c.toNat ∈ String.utf8EncodeChar d := eq ▸ List.mem_cons_self
      have same := toNat_of_mem_encodeChar mem (by rw [number]; exact ascii)
      exact Char.toNat_inj.mp (same.symm.trans number)
    · rintro rfl
      rw [encodeChar_ascii ascii] at eq
      exact (List.cons.inj eq).1.symm

/-- At an offset between two characters stands the first byte of what follows. -/
theorem getElem?_encode (front rest : List Char) :
    (encode (String.ofList (front ++ rest)))[size front]? = (encode (String.ofList rest)).head? := by
  rw [List.head?_eq_getElem?, ← drop_encode front rest, List.getElem?_drop, Nat.add_zero]

theorem getElem?_encode_iff (front rest : List Char) {c : Char} (ascii : c.toNat < 0x80) :
    (encode (String.ofList (front ++ rest)))[size front]? = some (UInt8.ofNat c.toNat) ↔
      rest.head? = some c := by
  rw [getElem?_encode, head?_encode_iff ascii]

end TelemetryRelay.Utf8
