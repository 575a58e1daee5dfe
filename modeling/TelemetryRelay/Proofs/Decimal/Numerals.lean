import TelemetryRelay.Decimal.Fixed
import TelemetryRelay.Decimal.Reader
import TelemetryRelay.Proofs.Text.Splitting

namespace TelemetryRelay.Decimal

theorem decimal_eq (cs : List Char) : Digits.decimal cs = Nat.ofDigitChars 10 cs 0 := by
  rw [Digits.decimal, Digits.value_eq_foldr, Nat.ofDigitChars_eq_foldl, List.foldr_map,
    List.foldr_reverse]
  congr 1
  funext n c
  exact Nat.add_comm _ _

/-- A text of decimal digits, at least one. -/
structure IsFigures (cs : List Char) : Prop where
  ne_nil : cs ≠ []
  digits : ∀ c ∈ cs, c.isDigit = true

theorem IsFigures.head_ne {cs tail rest : List Char} {c : Char} (h : IsFigures cs)
    (other : c.isDigit = false) : cs ++ tail ≠ c :: rest := by
  intro eq
  obtain ⟨d, ds, rfl⟩ := List.exists_cons_of_ne_nil h.ne_nil
  obtain ⟨rfl, _⟩ := List.cons.inj eq
  have digit := h.digits d (by simp)
  rw [other] at digit
  contradiction

theorem readNat?_eq_some_iff {cs : List Char} {n : Nat} :
    readNat? cs = some n ↔ IsFigures cs ∧ n = Nat.ofDigitChars 10 cs 0 := by
  unfold readNat?
  split
  next h =>
    simp only [Bool.or_eq_true, List.isEmpty_iff, Bool.not_eq_true'] at h
    simp only [reduceCtorEq, false_iff, not_and]
    intro fig
    rcases h with h | h
    · exact absurd h fig.ne_nil
    · have all := List.all_eq_true.mpr fig.digits
      rw [h] at all
      contradiction
  next h =>
    simp only [Bool.or_eq_true, List.isEmpty_iff, Bool.not_eq_true', not_or,
      Bool.not_eq_false] at h
    rw [Option.some.injEq, decimal_eq]
    exact ⟨fun eq => ⟨⟨h.1, List.all_eq_true.mp h.2⟩, eq.symm⟩, fun eq => eq.2.symm⟩

/-- The texts of an integer: digits, and perhaps a sign in front. -/
inductive IntegerText : List Char → Int → Prop where
  | plain {ds : List Char} (figures : IsFigures ds) :
      IntegerText ds (Nat.ofDigitChars 10 ds 0 : Nat)
  | plus {ds : List Char} (figures : IsFigures ds) :
      IntegerText ('+' :: ds) (Nat.ofDigitChars 10 ds 0 : Nat)
  | minus {ds : List Char} (figures : IsFigures ds) :
      IntegerText ('-' :: ds) (-(Nat.ofDigitChars 10 ds 0 : Nat))

theorem IntegerText.mem {cs : List Char} {n : Int} {c : Char} (h : IntegerText cs n)
    (mem : c ∈ cs) : c.isDigit = true ∨ c = '+' ∨ c = '-' := by
  cases h with
  | plain figures => exact .inl (figures.digits c mem)
  | plus figures =>
    rcases List.mem_cons.mp mem with rfl | mem
    · exact .inr (.inl rfl)
    · exact .inl (figures.digits c mem)
  | minus figures =>
    rcases List.mem_cons.mp mem with rfl | mem
    · exact .inr (.inr rfl)
    · exact .inl (figures.digits c mem)

theorem takeSign_append {cs : List Char} (h : IsFigures cs) (tail : List Char) :
    takeSign (cs ++ tail) = (false, cs ++ tail) := by
  unfold takeSign
  split
  next rest eq => exact absurd eq (h.head_ne (by decide))
  next rest eq => exact absurd eq (h.head_ne (by decide))
  next => rfl

theorem readInt?_eq_some_iff {cs : List Char} {n : Int} :
    readInt? cs = some n ↔ IntegerText cs n := by
  constructor
  · intro h
    unfold readInt? takeSign at h
    split at h
    next negative rest eq =>
      obtain ⟨k, hk, rfl⟩ := Option.map_eq_some_iff.mp h
      obtain ⟨m, hm, hk⟩ := Option.bind_eq_some_iff.mp hk
      cases Option.some.inj hk
      obtain ⟨figures, rfl⟩ := readNat?_eq_some_iff.mp hm
      split at eq <;> obtain ⟨rfl, rfl⟩ := Prod.mk.inj eq
      · exact .minus figures
      · exact .plus figures
      · exact .plain figures
  · intro h
    cases h with
    | plain figures =>
      have sign := takeSign_append figures []
      rw [List.append_nil] at sign
      rw [readInt?, sign]
      simp [readNat?_eq_some_iff.mpr ⟨figures, rfl⟩]
    | plus figures => simp [readInt?, takeSign, readNat?_eq_some_iff.mpr ⟨figures, rfl⟩]
    | minus figures => simp [readInt?, takeSign, readNat?_eq_some_iff.mpr ⟨figures, rfl⟩]

/-- The texts of an integer of 64 bits are those whose value it has. -/
theorem readInt64?_eq_some_iff {cs : List Char} {n : Int64} :
    readInt64? cs = some n ↔ IntegerText cs n.toInt := by
  have low := Int64.minValue_le_toInt n
  have high := Int64.toInt_le n
  unfold readInt64?
  split
  next k hk =>
    have text := readInt?_eq_some_iff.mp hk
    split
    next range =>
      rw [Option.some.injEq]
      constructor
      · rintro rfl
        rwa [Int64.toInt_ofInt_of_le range.1 (Int.lt_of_le_of_lt range.2 (by decide))]
      · intro h
        have eq := Option.some.inj ((readInt?_eq_some_iff.mpr h).symm.trans hk)
        rw [← eq, Int64.ofInt_toInt]
    next range =>
      simp only [reduceCtorEq, false_iff]
      intro h
      have eq := Option.some.inj ((readInt?_eq_some_iff.mpr h).symm.trans hk)
      exact range (eq ▸ ⟨low, high⟩)
  next hk =>
    simp only [reduceCtorEq, false_iff]
    intro h
    rw [readInt?_eq_some_iff.mpr h] at hk
    contradiction

theorem digits_figures (n : Nat) : IsFigures (digits n) where
  ne_nil := Nat.toDigits_ne_nil
  digits _ hc := Nat.isDigit_of_mem_toDigits (by decide) (by decide) hc

/-- What is written for an integer is a text of it. -/
theorem ofInt_integerText (n : Int) : IntegerText (ofInt n).toList n := by
  rw [ofInt, String.toList_ofList]
  have value : Nat.ofDigitChars 10 (digits n.natAbs) 0 = n.natAbs := Nat.ofDigitChars_ten_toDigits
  by_cases negative : n < 0
  · have text := IntegerText.minus (digits_figures n.natAbs)
    rw [value, show -(n.natAbs : Int) = n by omega] at text
    simpa [negative] using text
  · have text := IntegerText.plain (digits_figures n.natAbs)
    rw [value, show (n.natAbs : Int) = n by omega] at text
    simpa [negative] using text

/-- How a numeral can end. -/
def EndsInFigure (cs : List Char) : Prop :=
  ∃ c, cs.getLast? = some c ∧ (c.isDigit = true ∨ c = '.')

theorem EndsInFigure.append {ys : List Char} (h : EndsInFigure ys) (xs : List Char) :
    EndsInFigure (xs ++ ys) := by
  obtain ⟨c, last, figure⟩ := h
  exact ⟨c, by simp [last], figure⟩

theorem endsInFigure_of_digits {ds : List Char} (h : ∀ c ∈ ds, c.isDigit = true) (full : ds ≠ []) :
    EndsInFigure ds := by
  obtain ⟨c, last⟩ := Option.isSome_iff_exists.mp (List.getLast?_isSome.mpr full)
  exact ⟨c, last, .inl (h c (List.mem_of_getLast? last))⟩

theorem takeSign_eq (cs : List Char) : ∃ sign, cs = sign ++ (takeSign cs).2 := by
  unfold takeSign
  split
  · exact ⟨['-'], rfl⟩
  · exact ⟨['+'], rfl⟩
  · exact ⟨[], rfl⟩

theorem readExponent?_end {cs : List Char} {e : Int} (h : readExponent? cs = some e) :
    cs = [] ∨ EndsInFigure cs := by
  unfold readExponent? at h
  split at h
  next => exact .inl rfl
  next mark rest =>
    split at h
    next negative ds eq =>
      split at h
      next cond =>
        simp only [Bool.and_eq_true, Bool.not_eq_true', List.isEmpty_eq_false_iff] at cond
        obtain ⟨sign, hs⟩ := takeSign_eq rest
        have ends := endsInFigure_of_digits (List.all_eq_true.mp cond.2) cond.1.2
        rw [eq] at hs
        rw [hs]
        exact .inr (ends.append (mark :: sign))
      next => simp at h

/-- A numeral ends in a digit or in its point. -/
theorem readNumeral?_end {cs : List Char} {n : Numeral} (h : readNumeral? cs = some n) :
    EndsInFigure cs := by
  rcases hsign : takeSign cs with ⟨negative, rest⟩
  rcases hspan : rest.span Char.isDigit with ⟨whole, back⟩
  obtain ⟨sign, hs⟩ := takeSign_eq cs
  obtain ⟨hw, digits, -⟩ := Text.parts_of_span hspan
  simp only [readNumeral?, hsign, hspan] at h
  rw [hs, hsign, hw]
  refine EndsInFigure.append ?_ sign
  split at h
  next r =>
    rcases hpoint : r.span Char.isDigit with ⟨fraction, ex⟩
    obtain ⟨hf, figures, -⟩ := Text.parts_of_span hpoint
    simp only [hpoint, Option.ite_none_left_eq_some] at h
    obtain ⟨e, he, _⟩ := Option.map_eq_some_iff.mp h.2
    refine EndsInFigure.append ?_ whole
    rcases readExponent?_end he with rfl | ends
    · by_cases empty : fraction = []
      · exact ⟨'.', by simp [hf, empty], .inr rfl⟩
      · rw [hf, List.append_nil]
        exact (endsInFigure_of_digits figures empty).append ['.']
    · rw [hf]
      exact (ends.append fraction).append ['.']
  next =>
    simp only [Option.ite_none_left_eq_some] at h
    obtain ⟨e, he, _⟩ := Option.map_eq_some_iff.mp h.2
    rcases readExponent?_end he with rfl | ends
    · have full : whole ≠ [] := by simpa using h.1
      rw [List.append_nil]
      exact endsInFigure_of_digits digits full
    · exact ends.append whole

end TelemetryRelay.Decimal
