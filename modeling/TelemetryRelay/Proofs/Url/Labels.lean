import TelemetryRelay.Proofs.Text.Splitting
import TelemetryRelay.Proofs.Url.Names

namespace TelemetryRelay

theorem Percent.hexValue?_cases {c : Char} {d : Nat} (h : hexValue? c = some d) :
    c.isDigit = true ∧ d < 10 ∨ 10 ≤ d ∧ d < 16 := by
  have upto : ∀ top : Char, c ≤ top → c.toNat ≤ top.toNat :=
    fun top le => UInt32.le_iff_toNat_le.mp le
  unfold hexValue? at h
  split at h
  next digit =>
    have le := upto '9' (of_decide_eq_true (Bool.and_eq_true_iff.mp digit).2)
    have zero : '0'.toNat = 48 := rfl
    have nine : '9'.toNat = 57 := rfl
    cases Option.some.inj h
    exact .inl ⟨digit, by omega⟩
  next =>
    split at h
    next small =>
      have le := upto 'f' (of_decide_eq_true (Bool.and_eq_true_iff.mp small).2)
      have first : 'a'.toNat = 97 := rfl
      have last : 'f'.toNat = 102 := rfl
      cases Option.some.inj h
      exact .inr ⟨Nat.le_add_left _ _, by omega⟩
    next =>
      split at h
      next capital =>
        have le := upto 'F' (of_decide_eq_true (Bool.and_eq_true_iff.mp capital).2)
        have first : 'A'.toNat = 65 := rfl
        have last : 'F'.toNat = 70 := rfl
        cases Option.some.inj h
        exact .inr ⟨Nat.le_add_left _ _, by omega⟩
      next => contradiction

namespace Host

/-- What reads as a number at the end of a host: digits, or `0x` and digits in base 16. -/
def IsNumber (cs : List Char) : Prop :=
  (cs ≠ [] ∧ ∀ c ∈ cs, c.isDigit = true) ∨
    ∃ mark ds, (mark = 'x' ∨ mark = 'X') ∧ cs = '0' :: mark :: ds ∧
      ∀ c ∈ ds, (Percent.hexValue? c).isSome = true

theorem digits_of_foldlM {base n : Nat} {ds : List Char}
    (h : (ds.foldlM (fun n c => (Percent.hexValue? c).bind fun d =>
      if d < base then some (n * base + d) else none) n).isSome = true) :
    ∀ c ∈ ds, ∃ d < base, Percent.hexValue? c = some d := by
  induction ds generalizing n with
  | nil => simp
  | cons c rest ih =>
    rw [List.foldlM_cons] at h
    obtain ⟨m, value⟩ := Option.isSome_iff_exists.mp h
    obtain ⟨k, first, later⟩ := Option.bind_eq_some_iff.mp value
    obtain ⟨d, digit, small⟩ := Option.bind_eq_some_iff.mp first
    have below : d < base := by
      by_contra large
      rw [if_neg large] at small
      contradiction
    refine List.forall_mem_cons.mpr ⟨⟨d, below, digit⟩, @ih k ?_⟩
    exact Option.isSome_iff_exists.mpr ⟨m, later⟩

theorem isSome_foldlM {ds : List Char} (digits : ∀ c ∈ ds, (Percent.hexValue? c).isSome = true)
    (n : Nat) : (ds.foldlM (fun n c => (Percent.hexValue? c).bind fun d =>
      if d < 16 then some (n * 16 + d) else none) n).isSome = true := by
  induction ds generalizing n with
  | nil => rfl
  | cons c rest ih =>
    obtain ⟨first, later⟩ := List.forall_mem_cons.mp digits
    obtain ⟨d, value⟩ := Option.isSome_iff_exists.mp first
    have small : d < 16 := by
      rcases Percent.hexValue?_cases value with ⟨-, below⟩ | ⟨-, below⟩ <;> omega
    rw [List.foldlM_cons, value, Option.bind_some, if_pos small]
    exact ih later (n * 16 + d)

theorem isNumber_of_ipv4Part? {cs : List Char} (h : (ipv4Part? cs).isSome = true) :
    IsNumber cs := by
  have decimal {base : Nat} (le : base ≤ 10) {ds : List Char}
      (digits : ∀ c ∈ ds, ∃ d < base, Percent.hexValue? c = some d) :
      ∀ c ∈ ds, c.isDigit = true := by
    intro c mem
    obtain ⟨d, small, value⟩ := digits c mem
    rcases Percent.hexValue?_cases value with ⟨digit, -⟩ | ⟨large, -⟩
    · exact digit
    · omega
  unfold ipv4Part? at h
  split at h
  next base ds eq =>
    split at h
    next => contradiction
    next filled =>
      have digits := digits_of_foldlM h
      have read : ∀ c ∈ ds, (Percent.hexValue? c).isSome = true := by
        intro c mem
        obtain ⟨d, -, value⟩ := digits c mem
        rw [value, Option.isSome_some]
      split at eq
      next rest =>
        cases eq
        exact .inr ⟨'x', ds, .inl rfl, rfl, read⟩
      next rest =>
        cases eq
        exact .inr ⟨'X', ds, .inr rfl, rfl, read⟩
      next d rest _ _ =>
        cases eq
        refine .inl ⟨List.cons_ne_nil _ _, ?_⟩
        exact List.forall_mem_cons.mpr ⟨rfl, decimal (by decide) digits⟩
      next =>
        cases eq
        exact .inl ⟨by simpa using filled, decimal (by decide) digits⟩

/-- The last label, in front of a point at the end. -/
structure IsLastLabel (label cs : List Char) : Prop where
  free : '.' ∉ label
  parts : ∃ front back, cs = front ++ label ++ back ∧ (front = [] ∨ front.getLast? = some '.') ∧
    (back = [] ∨ back = ['.'])

theorem getLast?_splitOn {front last : List Char} (ends : front = [] ∨ front.getLast? = some '.')
    (free : '.' ∉ last) : ((front ++ last).splitOn '.').getLast? = some last := by
  have found := Text.getLastD_splitOn ends free
  obtain ⟨part, eq⟩ := Option.isSome_iff_exists.mp
    (List.getLast?_isSome.mpr (List.splitOn_ne_nil '.' (front ++ last)))
  rw [List.getLastD_eq_getLast?, eq] at found
  rw [eq, ← found]
  rfl

/-- A point at the end does not count. -/
theorem ipv4Parts_point (cs : List Char) : ipv4Parts (cs ++ ['.']) = cs.splitOn '.' := by
  have split : (cs ++ ['.']).splitOn '.' = cs.splitOn '.' ++ [[]] := by
    rw [List.splitOn_append_cons_self]
    rfl
  have some_part := List.length_pos_iff.mpr (List.splitOn_ne_nil '.' cs)
  simp only [ipv4Parts, split]
  rw [if_pos (by simp [some_part]), List.dropLast_concat]

theorem ipv4Parts_filled {cs label : List Char} (last : (cs.splitOn '.').getLast? = some label)
    (filled : label ≠ []) : ipv4Parts cs = cs.splitOn '.' := by
  refine if_neg fun cut => filled ?_
  exact Option.some.inj (last.symm.trans cut.2)

/-- The last part is the last label, where that is not empty. -/
theorem getLast?_ipv4Parts {label cs : List Char} (filled : label ≠ []) :
    (ipv4Parts cs).getLast? = some label ↔ IsLastLabel label cs := by
  constructor
  · intro found
    by_cases cut : ∃ body, cs = body ++ ['.']
    · obtain ⟨body, rfl⟩ := cut
      obtain ⟨front, last, rfl, ends, free⟩ := Text.exists_lastPart '.' body
      rw [ipv4Parts_point, getLast?_splitOn ends free] at found
      cases Option.some.inj found
      exact ⟨free, front, ['.'], rfl, ends, .inr rfl⟩
    · obtain ⟨front, last, rfl, ends, free⟩ := Text.exists_lastPart '.' cs
      have some_char : last ≠ [] := by
        rintro rfl
        rcases ends with rfl | ends
        · exact filled (Option.some.inj found).symm
        · obtain ⟨body, rfl⟩ := List.getLast?_eq_some_iff.mp ends
          exact cut ⟨body, List.append_nil _⟩
      have whole := getLast?_splitOn ends free
      rw [ipv4Parts_filled whole some_char, whole] at found
      cases Option.some.inj found
      exact ⟨free, front, [], by simp, ends, .inl rfl⟩
  · rintro ⟨free, front, back, rfl, ends, rfl | rfl⟩
    · have whole := getLast?_splitOn ends free
      rw [List.append_nil, ipv4Parts_filled whole filled, whole]
    · rw [ipv4Parts_point, getLast?_splitOn ends free]

theorem IsNumber.ne_nil {cs : List Char} (number : IsNumber cs) : cs ≠ [] := by
  rcases number with ⟨filled, -⟩ | ⟨mark, ds, -, rfl, -⟩
  · exact filled
  · exact List.cons_ne_nil _ _

/-- A name is read as an address of four bytes if its last label is a number. -/
theorem endsInNumber_iff {cs : List Char} :
    endsInNumber cs = true ↔ ∃ label, IsLastLabel label cs ∧ IsNumber label := by
  constructor
  · intro ends
    unfold endsInNumber at ends
    split at ends
    next label found =>
      have number : IsNumber label := by
        rcases Bool.or_eq_true_iff.mp ends with digits | part
        · exact .inl (by simpa using digits)
        · exact isNumber_of_ipv4Part? part
      exact ⟨label, (getLast?_ipv4Parts number.ne_nil).mp found, number⟩
    next => contradiction
  · rintro ⟨label, last, number⟩
    have found := (getLast?_ipv4Parts number.ne_nil).mpr last
    unfold endsInNumber
    rw [found]
    refine Bool.or_eq_true_iff.mpr ?_
    rcases number with ⟨filled, digits⟩ | ⟨mark, ds, rfl | rfl, rfl, digits⟩
    · left
      simpa [filled] using digits
    · exact .inr (isSome_foldlM digits 0)
    · exact .inr (isSome_foldlM digits 0)

end Host

namespace Url

/-- Whether a character may stand in a plain name in small letters. -/
def isSmallPlain (c : Char) : Bool :=
  c.isLower || c.isDigit || c == '-' || c == '.'

/-- A plain name in small letters: no label of it is the code of another text, and the last one is no
number. -/
structure IsPlainName (name : List Char) : Prop where
  ne_nil : name ≠ []
  chars : ∀ c ∈ name, isSmallPlain c = true
  no_code : ∀ label ∈ name.splitOn '.', ¬ "xn--".toList <+: label
  no_number : ¬ ∃ label, Host.IsLastLabel label name ∧ Host.IsNumber label

namespace IsPlainName
variable {name : List Char} (plain : IsPlainName name)
include plain

theorem isPlain : ∀ c ∈ name, Url.isPlain c = true := by
  intro c mem
  have kinds : ((c.isLower = true ∨ c.isDigit = true) ∨ c = '-') ∨ c = '.' := by
    simpa [isSmallPlain] using plain.chars c mem
  rcases kinds with ((lower | digit) | rfl) | rfl
  · have letter : c.isAlpha = true := Bool.or_eq_true_iff.mpr (.inr lower)
    have sign : c.isAlphanum = true := Bool.or_eq_true_iff.mpr (.inl letter)
    rw [Url.isPlain, sign, Bool.true_or, Bool.true_or]
  · have sign : c.isAlphanum = true := Bool.or_eq_true_iff.mpr (.inr digit)
    rw [Url.isPlain, sign, Bool.true_or, Bool.true_or]
  · rfl
  · rfl

theorem isQuiet : ∀ c ∈ name, Url.isQuiet c = true := fun c mem =>
  forall_isPlain (P := fun c => Url.isQuiet c = true) (by decide) (plain.isPlain c mem)

theorem map_toLower : name.map Char.toLower = name := by
  have small : ∀ c ∈ name, c.toLower = c := by
    intro c mem
    exact forall_isPlain (P := fun c => isSmallPlain c = true → c.toLower = c) (by decide)
      (plain.isPlain c mem) (plain.chars c mem)
  rw [List.map_congr_left small, List.map_id']

theorem readSpecial : Host.readSpecial name = .ok (.name (String.ofList name)) := by
  have no_code : ((name.map Char.toLower).splitOn '.').any isEncoded = false := by
    rw [plain.map_toLower, List.any_eq_false]
    intro label mem encoded
    exact plain.no_code label mem (List.prefix_iff_eq_take.mpr (beq_iff_eq.mp encoded).symm)
  have read := readSpecial_plain plain.isPlain no_code
  rw [plain.map_toLower, if_neg (by simpa using plain.ne_nil),
    if_neg fun ends => plain.no_number (Host.endsInNumber_iff.mp ends)] at read
  exact read

end IsPlainName
end Url
end TelemetryRelay
