import Mathlib.Algebra.Order.BigOperators.Group.List
import Mathlib.Algebra.Order.Ring.Nat
import TelemetryRelay.Proofs.Text.Offsets
import TelemetryRelay.Proofs.Text.Quoting

namespace TelemetryRelay.Quoted

/-- A byte of ASCII is among the bytes of its own character only. -/
theorem ne_of_mem_encodeChar {c d : Char} {b : UInt8} (h : b ∈ String.utf8EncodeChar c)
    (other : c ≠ d) (ascii : d.toNat < 0x80) : b ≠ UInt8.ofNat d.toNat := by
  have number : (UInt8.ofNat d.toNat).toNat = d.toNat := by
    rw [UInt8.toNat_ofNat']
    omega
  rintro rfl
  have same := Utf8.toNat_of_mem_encodeChar h (by rw [number]; exact ascii)
  exact other (Char.toNat_inj.mp (same.symm.trans number))

/-- Whether a byte is neither a quote nor a backslash. -/
def IsPlainByte (b : UInt8) : Prop :=
  b ≠ 0x22 ∧ b ≠ 0x5C

theorem plain_encodeChar {c : Char} (quote : c ≠ '"') (slash : c ≠ '\\') :
    ∀ b ∈ String.utf8EncodeChar c, IsPlainByte b :=
  fun _ h => ⟨ne_of_mem_encodeChar h quote (by decide), ne_of_mem_encodeChar h slash (by decide)⟩

/-- After the first byte of a character comes neither a quote nor a backslash, whatever character it
is. -/
theorem plain_encodeChar_tail {c : Char} {b : UInt8} {bytes : Bytes}
    (eq : String.utf8EncodeChar c = b :: bytes) : ∀ b' ∈ bytes, IsPlainByte b' := by
  by_cases ascii : c.toNat < 0x80
  · rw [Utf8.encodeChar_ascii ascii] at eq
    obtain ⟨-, rfl⟩ := List.cons.inj eq
    simp
  · refine fun b' mem => plain_encodeChar ?_ ?_ b' (eq ▸ List.mem_cons_of_mem b mem)
    · rintro rfl
      exact ascii (by decide)
    · rintro rfl
      exact ascii (by decide)

theorem closingQuote_plain {bytes : Bytes} (plain : ∀ b ∈ bytes, IsPlainByte b) (position : Nat)
    (rest : Bytes) :
    closingQuote position (bytes ++ rest) = closingQuote (position + bytes.length) rest := by
  induction bytes generalizing position with
  | nil => rfl
  | cons b bytes ih =>
    obtain ⟨⟨quote, slash⟩, later⟩ := List.forall_mem_cons.mp plain
    rw [List.cons_append, closingQuote.eq_def]
    simp only [beq_iff_eq, quote, slash, if_false]
    rw [ih later, List.length_cons]
    congr 1
    omega

theorem closingQuote_quote (position : Nat) (rest : Bytes) :
    closingQuote position (0x22 :: rest) = some position := by
  rw [closingQuote.eq_def]
  rfl

theorem closingQuote_slash (position : Nat) (c : Char) (rest : Bytes) :
    closingQuote position (0x5C :: (String.utf8EncodeChar c ++ rest)) =
      closingQuote (position + 1 + c.utf8Size) rest := by
  obtain ⟨b, bytes, eq⟩ := List.exists_cons_of_ne_nil (String.utf8EncodeChar_ne_nil (c := c))
  have width : bytes.length + 1 = c.utf8Size := by
    rw [← String.length_utf8EncodeChar c, eq, List.length_cons]
  have skipped : closingQuote position (0x5C :: b :: (bytes ++ rest)) =
      closingQuote (position + 2) (bytes ++ rest) := by
    rw [closingQuote.eq_def]
    rfl
  rw [eq, List.cons_append, skipped, closingQuote_plain (plain_encodeChar_tail eq)]
  congr 1
  omega

theorem closingQuote_onto (position : Nat) (done cs : List Char) :
    closingQuote (position + Utf8.size done) (cs.flatMap String.utf8EncodeChar) =
      (splitAtQuoteOnto done cs).map fun parts => position + Utf8.size parts.1 := by
  have quote_byte : String.utf8EncodeChar '"' = [0x22] := Utf8.encodeChar_ascii (by decide)
  have slash_byte : String.utf8EncodeChar '\\' = [0x5C] := Utf8.encodeChar_ascii (by decide)
  induction done, cs using splitAtQuoteOnto.induct with
  | case1 done => simp [splitAtQuoteOnto, closingQuote]
  | case2 done c tail quote =>
    obtain rfl : c = '"' := by simpa using quote
    rw [splitAtQuoteOnto_quote, List.flatMap_cons, quote_byte, List.singleton_append,
      closingQuote_quote, Option.map_some, Utf8.size_reverse]
  | case3 done c quote slash =>
    obtain rfl : c = '\\' := by simpa using slash
    rw [List.flatMap_cons, slash_byte]
    rfl
  | case4 done c quote slash d tail ih =>
    obtain rfl : c = '\\' := by simpa using slash
    rw [splitAtQuoteOnto_slash, ← ih, List.flatMap_cons, List.flatMap_cons, slash_byte,
      List.singleton_append, closingQuote_slash, Utf8.size_cons, Utf8.size_cons]
    congr 1
    have width : '\\'.utf8Size = 1 := rfl
    omega
  | case5 done c tail quote slash ih =>
    have hq : c ≠ '"' := by simpa using quote
    have hs : c ≠ '\\' := by simpa using slash
    rw [splitAtQuoteOnto_plain hq hs, ← ih, List.flatMap_cons,
      closingQuote_plain (plain_encodeChar hq hs), Utf8.size_cons, String.length_utf8EncodeChar]
    congr 1
    omega

/-- The bytes and the characters of a text have their closing quote at the same place. -/
theorem closingQuote_encode (position : Nat) (cs : List Char) :
    closingQuote position (Utf8.encode (String.ofList cs)) =
      (splitAtQuote cs).map fun parts => position + Utf8.size parts.1 := by
  rw [Utf8.encode_ofList, splitAtQuote, ← closingQuote_onto]
  rfl

/-- A part of a text in which backslashes are paired from the left: a backslash with the character
after it, a backslash at the end, or any other character. -/
inductive Piece where
  | single (c : Char)
  | pair (c : Char)
  | lone
  deriving DecidableEq

/-- The pieces of a text, from the left. -/
def pieces : List Char → List Piece
  | [] => []
  | [c] => if c == '\\' then [.lone] else [.single c]
  | c :: d :: rest =>
    if c == '\\' then .pair d :: pieces rest else .single c :: pieces (d :: rest)

namespace Piece

/-- How a piece stands in the text. -/
def written : Piece → List Char
  | single c => [c]
  | pair c => ['\\', c]
  | lone => ['\\']

/-- What a piece stands for. -/
def meaning : Piece → List Char
  | pair c => if isSpecial c then [c] else ['\\', c]
  | p => p.written

/-- Whether a backslash in a piece does what backslashes are for. -/
def IsNeeded : Piece → Prop
  | single _ => True
  | pair c => c = '"' ∨ c = '\\'
  | lone => False

end Piece

theorem pieces_cons {c : Char} (h : c ≠ '\\') (cs : List Char) :
    pieces (c :: cs) = .single c :: pieces cs := by
  cases cs with
  | nil => simp [pieces, h]
  | cons d rest => simp [pieces, h]

theorem pieces_slash (c : Char) (cs : List Char) :
    pieces ('\\' :: c :: cs) = .pair c :: pieces cs := by
  simp [pieces]

theorem flatMap_written (cs : List Char) : (pieces cs).flatMap Piece.written = cs := by
  induction cs using pieces.induct with
  | case1 => rfl
  | case2 c slash =>
    obtain rfl : c = '\\' := by simpa using slash
    rfl
  | case3 c plain => simp [pieces, plain, Piece.written]
  | case4 c d rest slash ih =>
    obtain rfl : c = '\\' := by simpa using slash
    rw [pieces_slash, List.flatMap_cons, ih]
    rfl
  | case5 c d rest plain ih =>
    rw [pieces_cons (by simpa using plain), List.flatMap_cons, ih]
    rfl

theorem unescapeOnto_eq (done cs : List Char) :
    unescapeOnto done cs = done.reverse ++ (pieces cs).flatMap Piece.meaning := by
  induction cs using pieces.induct generalizing done with
  | case1 => simp [unescapeOnto, pieces]
  | case2 c slash =>
    obtain rfl : c = '\\' := by simpa using slash
    simp [unescapeOnto, pieces, Piece.meaning, Piece.written]
  | case3 c plain => simp [unescapeOnto, pieces, plain, Piece.meaning, Piece.written]
  | case4 c d rest slash ih =>
    obtain rfl : c = '\\' := by simpa using slash
    rw [pieces_slash, List.flatMap_cons, Piece.meaning]
    cases special : isSpecial d with
    | true => simp [unescapeOnto, special, ih]
    | false =>
      -- The character after a backslash that stays is not read as another one.
      have plain : d ≠ '\\' := by
        rintro rfl
        simp [isSpecial] at special
      simp [unescapeOnto, special, unescapeOnto_cons plain, ih]
  | case5 c d rest plain ih =>
    have slash : c ≠ '\\' := by simpa using plain
    rw [unescapeOnto_cons slash, ih, pieces_cons slash]
    simp [Piece.meaning, Piece.written]

theorem unescape_eq (cs : List Char) : unescape cs = (pieces cs).flatMap Piece.meaning :=
  unescapeOnto_eq [] cs

theorem single_ne_slash {c : Char} {cs : List Char} (h : Piece.single c ∈ pieces cs) :
    c ≠ '\\' := by
  induction cs using pieces.induct with
  | case1 => simp [pieces] at h
  | case2 d slash => simp [pieces, slash] at h
  | case3 d plain =>
    have other : d ≠ '\\' := by simpa using plain
    simp only [pieces, plain, Bool.false_eq_true, if_false, List.mem_singleton,
      Piece.single.injEq] at h
    exact h ▸ other
  | case4 d e rest slash ih =>
    obtain rfl : d = '\\' := by simpa using slash
    rw [pieces_slash] at h
    exact ih (by simpa using h)
  | case5 d e rest plain ih =>
    have other : d ≠ '\\' := by simpa using plain
    rw [pieces_cons other] at h
    rcases List.mem_cons.mp h with eq | later
    · cases eq
      exact other
    · exact ih later

/-- Writing the meaning of a piece gives the piece back if its backslash is needed, and otherwise one
character more. -/
theorem escape_meaning {p : Piece} (plain : ∀ c, p = .single c → isSpecial c = false) :
    (p.IsNeeded → escape p.meaning = p.written) ∧
      (¬ p.IsNeeded → (escape p.meaning).length = p.written.length + 1) := by
  cases p with
  | single c => simp [Piece.IsNeeded, Piece.meaning, Piece.written, escape, plain c rfl]
  | pair c =>
    have needed : isSpecial c = true ↔ c = '"' ∨ c = '\\' := by simp [isSpecial]
    cases special : isSpecial c with
    | true => simp [Piece.IsNeeded, ← needed, Piece.meaning, Piece.written, escape, special]
    | false =>
      have slash : isSpecial '\\' = true := rfl
      simp [Piece.IsNeeded, ← needed, Piece.meaning, Piece.written, escape, special, slash]
  | lone => simp [Piece.IsNeeded, Piece.meaning, Piece.written, escape, isSpecial]

/-- Where some pieces become longer and the others stay, the whole stays only if all do. -/
theorem flatMap_eq_iff {α β : Type} {f g : α → List β} {stays : α → Prop} {xs : List α}
    (same : ∀ x ∈ xs, stays x → f x = g x)
    (longer : ∀ x ∈ xs, ¬ stays x → (f x).length = (g x).length + 1) :
    xs.flatMap f = xs.flatMap g ↔ ∀ x ∈ xs, stays x := by
  have grows : ∀ ys : List α, (∀ y ∈ ys, y ∈ xs) →
      (ys.flatMap g).length ≤ (ys.flatMap f).length := by
    intro ys among
    rw [List.length_flatMap, List.length_flatMap]
    refine List.sum_le_sum fun y mem => ?_
    by_cases h : stays y
    · rw [same y (among y mem) h]
    · have one_more := longer y (among y mem) h
      omega
  constructor
  · intro eq x mem
    by_contra h
    obtain ⟨front, back, rfl⟩ := List.append_of_mem mem
    have before := grows front fun y hy => by simp [hy]
    have after := grows back fun y hy => by simp [hy]
    have one_more := longer x mem h
    have lengths := congrArg List.length eq
    simp only [List.flatMap_append, List.flatMap_cons, List.length_append] at lengths
    omega
  · exact fun h => List.flatMap_congr fun x mem => same x mem (h x mem)

/-- A text without an unpaired quote is read and written again unchanged exactly if all its
backslashes are needed. -/
theorem escape_unescape_iff {cs : List Char} (closed : Piece.single '"' ∉ pieces cs) :
    escape (unescape cs) = cs ↔ ∀ p ∈ pieces cs, p.IsNeeded := by
  have plain : ∀ p ∈ pieces cs, ∀ c, p = .single c → isSpecial c = false := by
    rintro p mem c rfl
    have quote : c ≠ '"' := by
      rintro rfl
      exact closed mem
    simp [isSpecial, quote, single_ne_slash mem]
  have rewritten : escape (unescape cs) = (pieces cs).flatMap fun p => escape p.meaning := by
    rw [unescape_eq]
    exact List.flatMap_assoc
  have kept := flatMap_eq_iff (fun p mem => (escape_meaning (plain p mem)).1)
    fun p mem => (escape_meaning (plain p mem)).2
  rwa [flatMap_written, ← rewritten] at kept

end TelemetryRelay.Quoted
