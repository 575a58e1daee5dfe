import Mathlib.Data.List.TakeDrop
import Mathlib.Data.List.TakeWhile
import TelemetryRelay.Text.Blank

namespace TelemetryRelay.Text

theorem span_append {α : Type} {p : α → Bool} {xs ys : List α} (pass : ∀ x ∈ xs, p x = true)
    (stop : ∀ y, ys.head? = some y → p y = false) : (xs ++ ys).span p = (xs, ys) := by
  have halt : ys.takeWhile p = [] ∧ ys.dropWhile p = ys := by
    cases ys with
    | nil => simp
    | cons y ys => simp [stop y rfl]
  rw [List.span_eq_takeWhile_dropWhile, List.takeWhile_append_of_pos pass,
    List.dropWhile_append_of_pos pass, halt.1, halt.2, List.append_nil]

theorem parts_of_span {α : Type} {p : α → Bool} {xs front back : List α}
    (h : xs.span p = (front, back)) : xs = front ++ back ∧ (∀ x ∈ front, p x = true) ∧
      ∀ y, back.head? = some y → p y = false := by
  rw [List.span_eq_takeWhile_dropWhile] at h
  obtain ⟨rfl, rfl⟩ := Prod.mk.inj h
  refine ⟨List.takeWhile_append_dropWhile.symm, fun x hx => List.mem_takeWhile_imp hx, ?_⟩
  intro y hy
  have first := List.head?_dropWhile_not p xs
  simpa [hy] using first

theorem dropTrailing_eq_self {α : Type} {p : α → Bool} {xs : List α}
    (h : ∀ x ∈ xs.getLast?, p x = false) : dropTrailing p xs = xs := by
  have kept : xs.reverse.dropWhile p = xs.reverse := by
    apply List.dropWhile_eq_self_iff.mpr
    intro pos
    have last : xs.reverse[0] ∈ xs.getLast? := by
      rw [← List.head?_reverse, List.head?_eq_getElem?, List.getElem?_eq_getElem pos]
      rfl
    rw [h _ last]
    exact Bool.false_ne_true
  rw [dropTrailing, kept, List.reverse_reverse]

theorem dropTrailing_append {α : Type} {p : α → Bool} {xs : List α}
    (h : ∀ x ∈ xs.getLast?, p x = false) (ys : List α) :
    dropTrailing p (xs ++ ys) = xs ++ dropTrailing p ys := by
  have kept := congrArg List.reverse (dropTrailing_eq_self h)
  rw [dropTrailing, List.reverse_reverse] at kept
  rw [dropTrailing, dropTrailing, List.reverse_append, List.dropWhile_append, kept]
  by_cases gone : ys.reverse.dropWhile p = [] <;> simp [gone]

theorem head?_dropTrailing_append {α : Type} {p q : α → Bool} {xs ys : List α}
    (hx : ∀ x ∈ xs.head?, q x = true) (hy : ∀ y ∈ ys.head?, q y = true) :
    ∀ c ∈ (dropTrailing p xs ++ ys).head?, q c = true := by
  have front : dropTrailing p xs ++ (xs.reverse.takeWhile p).reverse = xs := by
    rw [dropTrailing, ← List.reverse_append, List.takeWhile_append_dropWhile, List.reverse_reverse]
  cases left : dropTrailing p xs with
  | nil => simpa using hy
  | cons d rest =>
    rw [left] at front
    rw [← front] at hx
    simpa using hx

variable {α : Type} [DecidableEq α]

theorem splitFirst_append {sep : α} {before : List α} (h : sep ∉ before) (after : List α) :
    splitFirst sep (before ++ sep :: after) = some (before, after) := by
  have pass : ∀ x ∈ before, (!(x == sep)) = true := by
    intro x hx
    have other : x ≠ sep := fun eq => h (eq ▸ hx)
    simp [other]
  rw [splitFirst, span_append pass (by simp)]

theorem splitFirst_eq_some_iff {sep : α} {xs before after : List α} :
    splitFirst sep xs = some (before, after) ↔ sep ∉ before ∧ xs = before ++ sep :: after := by
  constructor
  · intro h
    unfold splitFirst at h
    split at h
    next front x rest eq =>
      obtain ⟨rfl, rfl⟩ := Prod.mk.inj (Option.some.inj h)
      obtain ⟨joined, pass, stop⟩ := parts_of_span eq
      obtain rfl : x = sep := by simpa using stop x rfl
      exact ⟨fun mem => by simpa using pass x mem, joined⟩
    next => contradiction
  · rintro ⟨h, rfl⟩
    exact splitFirst_append h after

theorem splitFirst_eq_none {sep : α} {xs : List α} (h : sep ∉ xs) : splitFirst sep xs = none := by
  refine Option.eq_none_iff_forall_ne_some.mpr fun parts split => h ?_
  rw [(splitFirst_eq_some_iff.mp split).2]
  simp

theorem not_mem_of_mem_splitOn {sep : α} {xs part : List α} (h : part ∈ xs.splitOn sep) :
    sep ∉ part := by
  induction xs generalizing part with
  | nil => simp_all
  | cons x xs ih =>
    rw [List.splitOn_cons_eq_if_modifyHead] at h
    split at h
    next =>
      rcases List.mem_cons.mp h with rfl | h
      · simp
      · exact ih h
    next other =>
      obtain ⟨first, rest, eq⟩ := List.exists_cons_of_ne_nil (List.splitOn_ne_nil sep xs)
      rw [eq, List.modifyHead_cons] at h
      rcases List.mem_cons.mp h with rfl | h
      · have free : sep ∉ first := ih (by simp [eq])
        have apart : sep ≠ x := fun hx => other (by simp [hx])
        simp [free, apart]
      · exact ih (by simp [eq, h])

/-- A first part and the others, each with a separator in front, come apart again. -/
theorem splitOn_flatMap {sep : α} {first : List α} {rest : List (List α)} (hf : sep ∉ first)
    (hr : ∀ part ∈ rest, sep ∉ part) :
    (first ++ rest.flatMap (sep :: ·)).splitOn sep = first :: rest := by
  induction rest generalizing first with
  | nil => simpa using List.splitOn_eq_singleton hf
  | cons part rest ih =>
    rw [List.flatMap_cons, List.cons_append, List.splitOn_append_cons_self_of_not_mem hf,
      ih (hr part (by simp)) fun p hp => hr p (by simp [hp])]

theorem flatMap_of_splitOn {sep : α} {xs first : List α} {rest : List (List α)}
    (h : xs.splitOn sep = first :: rest) : xs = first ++ rest.flatMap (sep :: ·) := by
  have joined : [sep].intercalate (xs.splitOn sep) = xs := List.intercalate_splitOn sep
  rw [h] at joined
  rw [← joined]
  clear h joined
  induction rest generalizing first with
  | nil => simp
  | cons part rest ih => rw [List.intercalate_cons_cons, ih]; simp

/-- Every list ends in a part without separators, and before it is nothing or a separator. -/
theorem exists_lastPart (sep : α) (xs : List α) :
    ∃ front last, xs = front ++ last ∧ (front = [] ∨ front.getLast? = some sep) ∧ sep ∉ last := by
  by_cases h : sep ∈ xs.reverse
  · obtain ⟨back, ahead, eq, free⟩ := List.eq_append_cons_of_mem h
    refine ⟨ahead.reverse ++ [sep], back.reverse, ?_, .inr (by simp), by simpa using free⟩
    rw [← List.reverse_reverse xs, eq]
    simp
  · exact ⟨[], xs, rfl, .inl rfl, by simpa using h⟩

theorem getLastD_splitOn {sep : α} {front last : List α}
    (ends : front = [] ∨ front.getLast? = some sep) (free : sep ∉ last) :
    ((front ++ last).splitOn sep).getLastD [] = last := by
  rcases ends with rfl | ends
  · rw [List.nil_append, List.splitOn_eq_singleton free]
    rfl
  · obtain ⟨body, rfl⟩ := List.getLast?_eq_some_iff.mp ends
    rw [List.append_assoc, List.singleton_append, List.splitOn_append_cons_self,
      List.splitOn_eq_singleton free]
    simp [List.getLastD_eq_getLast?]

theorem trim_append {front inner back : List Char} (hf : ∀ c ∈ front, isBlank c = true)
    (hi : ∀ c ∈ inner, isBlank c = false) (hb : ∀ c ∈ back, isBlank c = true) :
    trim (front ++ inner ++ back) = inner := by
  have cut : ∀ outer : List Char, (∀ c ∈ outer, isBlank c = true) →
      (outer ++ inner.reverse).dropWhile isBlank = inner.reverse := by
    intro outer blank
    rw [List.dropWhile_append_of_pos blank]
    refine List.dropWhile_eq_self_iff.mpr fun nonempty => ?_
    have dark := hi _ (List.mem_reverse.mp (List.getElem_mem nonempty))
    simpa using dark
  rw [trim, dropTrailing, List.append_assoc, List.dropWhile_append_of_pos hf]
  cases inner with
  | nil => simp [List.dropWhile_eq_nil_iff.mpr hb]
  | cons c inner =>
    rw [List.cons_append, List.dropWhile_cons_of_neg (by simp [hi c]), ← List.cons_append,
      List.reverse_append, cut back.reverse fun c hc => hb c (List.mem_reverse.mp hc),
      List.reverse_reverse]

theorem trim_eq (cs : List Char) :
    ∃ front back, (∀ c ∈ front, isBlank c = true) ∧ (∀ c ∈ back, isBlank c = true) ∧
      cs = front ++ trim cs ++ back := by
  let rest := cs.dropWhile isBlank
  refine ⟨cs.takeWhile isBlank, (rest.reverse.takeWhile isBlank).reverse,
    fun c hc => List.mem_takeWhile_imp hc,
    fun c hc => List.mem_takeWhile_imp (List.mem_reverse.mp hc), ?_⟩
  have tail : trim cs ++ (rest.reverse.takeWhile isBlank).reverse = rest := by
    rw [trim, dropTrailing, ← List.reverse_append, List.takeWhile_append_dropWhile,
      List.reverse_reverse]
  rw [List.append_assoc, tail, List.takeWhile_append_dropWhile]

theorem trim_eq_nil_iff {cs : List Char} : trim cs = [] ↔ ∀ c ∈ cs, isBlank c = true := by
  constructor
  · intro gone
    obtain ⟨front, back, hf, hb, eq⟩ := trim_eq cs
    rw [gone, List.append_nil] at eq
    rw [eq]
    exact List.forall_mem_append.mpr ⟨hf, hb⟩
  · intro blank
    have cut : trim (cs ++ [] ++ []) = [] := trim_append blank (by simp) (by simp)
    simpa using cut

end TelemetryRelay.Text
