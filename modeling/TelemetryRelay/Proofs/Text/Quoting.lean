import TelemetryRelay.Text.Quoted

namespace TelemetryRelay.Quoted

/-- What stands between quotes, and the text it stands for: every quote there has a backslash in
front, and a backslash is dropped if a quote or a backslash follows it. -/
inductive Inside : List Char → List Char → Prop where
  | nil : Inside [] []
  | plain {c : Char} {cs text : List Char} (quote : c ≠ '"') (slash : c ≠ '\\')
      (rest : Inside cs text) : Inside (c :: cs) (c :: text)
  | dropped {c : Char} {cs text : List Char} (special : isSpecial c = true)
      (rest : Inside cs text) : Inside ('\\' :: c :: cs) (c :: text)
  | kept {c : Char} {cs text : List Char} (other : isSpecial c = false)
      (rest : Inside cs text) : Inside ('\\' :: c :: cs) ('\\' :: c :: text)

theorem splitAtQuoteOnto_quote (done rest : List Char) :
    splitAtQuoteOnto done ('"' :: rest) = some (done.reverse, rest) := by
  rw [splitAtQuoteOnto.eq_def]
  rfl

theorem splitAtQuoteOnto_slash (done : List Char) (c : Char) (rest : List Char) :
    splitAtQuoteOnto done ('\\' :: c :: rest) = splitAtQuoteOnto (c :: '\\' :: done) rest := by
  rw [splitAtQuoteOnto.eq_def]
  rfl

theorem splitAtQuoteOnto_plain {c : Char} (quote : c ≠ '"') (slash : c ≠ '\\')
    (done rest : List Char) :
    splitAtQuoteOnto done (c :: rest) = splitAtQuoteOnto (c :: done) rest := by
  rw [splitAtQuoteOnto.eq_def]
  simp [quote, slash]

theorem splitAtQuoteOnto_inside {cs text : List Char} (h : Inside cs text)
    (done rest : List Char) :
    splitAtQuoteOnto done (cs ++ '"' :: rest) = some (done.reverse ++ cs, rest) := by
  induction h generalizing done with
  | nil => simp [splitAtQuoteOnto_quote]
  | plain quote slash _ ih => simp [splitAtQuoteOnto_plain quote slash, ih]
  | dropped _ _ ih => simp [splitAtQuoteOnto_slash, ih]
  | kept _ _ ih => simp [splitAtQuoteOnto_slash, ih]

theorem inside_of_splitAtQuoteOnto {done cs front rest : List Char}
    (h : splitAtQuoteOnto done cs = some (front, rest)) :
    ∃ inside text, Inside inside text ∧ front = done.reverse ++ inside ∧
      cs = inside ++ '"' :: rest := by
  induction done, cs using splitAtQuoteOnto.induct with
  | case1 done => simp [splitAtQuoteOnto] at h
  | case2 done c tail quote =>
    obtain rfl : c = '"' := by simpa using quote
    rw [splitAtQuoteOnto_quote] at h
    obtain ⟨rfl, rfl⟩ := Prod.mk.inj (Option.some.inj h)
    exact ⟨[], [], .nil, by simp, rfl⟩
  | case3 done c quote slash => simp [splitAtQuoteOnto, quote, slash] at h
  | case4 done c quote slash d tail ih =>
    obtain rfl : c = '\\' := by simpa using slash
    rw [splitAtQuoteOnto_slash] at h
    obtain ⟨inside, text, hi, rfl, rfl⟩ := ih h
    cases special : isSpecial d with
    | true => exact ⟨'\\' :: d :: inside, d :: text, .dropped special hi, by simp, rfl⟩
    | false => exact ⟨'\\' :: d :: inside, '\\' :: d :: text, .kept special hi, by simp, rfl⟩
  | case5 done c tail quote slash ih =>
    have hq : c ≠ '"' := by simpa using quote
    have hs : c ≠ '\\' := by simpa using slash
    rw [splitAtQuoteOnto_plain hq hs] at h
    obtain ⟨inside, text, hi, rfl, rfl⟩ := ih h
    exact ⟨c :: inside, c :: text, .plain hq hs hi, by simp, rfl⟩

/-- The closing quote ends exactly what may stand between quotes. -/
theorem splitAtQuote_eq_some_iff {cs inside rest : List Char} :
    splitAtQuote cs = some (inside, rest) ↔
      (∃ text, Inside inside text) ∧ cs = inside ++ '"' :: rest := by
  constructor
  · intro h
    obtain ⟨inside, text, hi, rfl, rfl⟩ := inside_of_splitAtQuoteOnto h
    exact ⟨⟨text, hi⟩, rfl⟩
  · rintro ⟨⟨text, hi⟩, rfl⟩
    exact splitAtQuoteOnto_inside hi [] rest

theorem unescapeOnto_cons {c : Char} (h : c ≠ '\\') (done cs : List Char) :
    unescapeOnto done (c :: cs) = unescapeOnto (c :: done) cs := by
  cases cs with
  | nil => simp [unescapeOnto]
  | cons d cs => simp [unescapeOnto, h]

theorem unescapeOnto_inside {cs text : List Char} (h : Inside cs text) (done : List Char) :
    unescapeOnto done cs = done.reverse ++ text := by
  induction h generalizing done with
  | nil => simp [unescapeOnto]
  | plain _ slash _ ih => simp [unescapeOnto_cons slash, ih]
  | dropped special _ ih => simp [unescapeOnto, special, ih]
  | @kept c cs text other _ ih =>
    -- The character after a backslash that stays is not read as another one.
    have slash : c ≠ '\\' := by
      rintro rfl
      simp [isSpecial] at other
    simp [unescapeOnto, other, unescapeOnto_cons slash, ih]

theorem unescape_inside {cs text : List Char} (h : Inside cs text) : unescape cs = text :=
  unescapeOnto_inside h []

/-- An escaped text stands for that text. -/
theorem escape_inside (cs : List Char) : Inside (escape cs) cs := by
  induction cs with
  | nil => exact .nil
  | cons c cs ih =>
    rw [escape, List.flatMap_cons, ← escape]
    cases special : isSpecial c with
    | true => exact .dropped special ih
    | false =>
      simp only [isSpecial, Bool.or_eq_false_iff, beq_eq_false_iff_ne] at special
      exact .plain special.1 special.2 ih

end TelemetryRelay.Quoted
