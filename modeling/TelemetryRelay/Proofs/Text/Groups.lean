import TelemetryRelay.Text.Groups

namespace TelemetryRelay.Text
variable {α β : Type}

theorem groupsOnto_eq (done : List (List α)) (size : Nat) (xs : List α) :
    groupsOnto done size xs = done.reverse ++ groups size xs := by
  induction h : xs.length using Nat.strongRecOn generalizing done xs with
  | _ n ih =>
    cases xs with
    | nil => simp [groupsOnto, groups]
    | cons x rest =>
      have shorter : (rest.drop (size - 1)).length < n := by
        simp only [List.length_drop, ← h, List.length_cons]
        omega
      rw [groups, groupsOnto, groupsOnto, ih _ shorter _ _ rfl, ih _ shorter [_] _ rfl]
      simp

@[simp] theorem groups_nil (size : Nat) : groups size ([] : List α) = [] := by
  simp [groups, groupsOnto]

theorem groups_cons (size : Nat) (x : α) (rest : List α) :
    groups size (x :: rest) =
      (x :: rest.take (size - 1)) :: groups size (rest.drop (size - 1)) := by
  rw [groups, groupsOnto, groupsOnto_eq]
  simp

/-- Induction along the groups of a list. -/
theorem groups_induction (size : Nat) {motive : List α → Prop} (nil : motive [])
    (cons : ∀ x rest, motive (rest.drop (size - 1)) → motive (x :: rest)) (xs : List α) :
    motive xs := by
  induction h : xs.length using Nat.strongRecOn generalizing xs with
  | _ n ih =>
    cases xs with
    | nil => exact nil
    | cons x rest =>
      refine cons x rest (ih _ ?_ _ rfl)
      simp only [List.length_drop, ← h, List.length_cons]
      omega

theorem flatten_groups (size : Nat) (xs : List α) : (groups size xs).flatten = xs := by
  induction xs using groups_induction size with
  | nil => simp
  | cons x rest ih => simp [groups_cons, ih, List.take_append_drop]

theorem nil_not_mem_groups (size : Nat) (xs : List α) : [] ∉ groups size xs := by
  induction xs using groups_induction size with
  | nil => simp
  | cons x rest ih => simp [groups_cons, ih]

theorem groups_map (f : α → β) (size : Nat) (xs : List α) :
    groups size (xs.map f) = (groups size xs).map (List.map f) := by
  induction xs using groups_induction size with
  | nil => simp
  | cons x rest ih => simp [groups_cons, ← ih, List.map_drop, List.map_take]

/-- A group of the full size comes off first. -/
theorem groups_append {size : Nat} {xs : List α} (full : xs.length = size) (ne : xs ≠ [])
    (ys : List α) : groups size (xs ++ ys) = xs :: groups size ys := by
  obtain ⟨x, rest, rfl⟩ := List.exists_cons_of_ne_nil ne
  have cut : size - 1 = rest.length := by
    simp only [List.length_cons] at full
    omega
  simp [groups_cons, cut]

theorem groups_of_length_le {size : Nat} {xs : List α} (short : xs.length ≤ size) (ne : xs ≠ []) :
    groups size xs = [xs] := by
  obtain ⟨x, rest, rfl⟩ := List.exists_cons_of_ne_nil ne
  have cut : rest.length ≤ size - 1 := by
    simp only [List.length_cons] at short
    omega
  simp [groups_cons, List.take_of_length_le cut, List.drop_eq_nil_of_le cut]

/-- A list cut into groups of one size, of which only the last one may be smaller. -/
structure IsGrouping (size : Nat) (xs : List α) (groups : List (List α)) : Prop where
  flatten : groups.flatten = xs
  ne_nil : ∀ group ∈ groups, group ≠ []
  length_le : ∀ group ∈ groups, group.length ≤ size
  full : ∀ group ∈ groups.dropLast, group.length = size

theorem length_le_of_mem_groups {size : Nat} (pos : 0 < size) {xs group : List α}
    (h : group ∈ groups size xs) : group.length ≤ size := by
  induction xs using groups_induction size with
  | nil => simp at h
  | cons x rest ih =>
    rw [groups_cons] at h
    rcases List.mem_cons.mp h with rfl | later
    · simp only [List.length_cons, List.length_take]
      omega
    · exact ih later

theorem length_of_mem_dropLast_groups {size : Nat} (pos : 0 < size) {xs group : List α}
    (h : group ∈ (groups size xs).dropLast) : group.length = size := by
  induction xs using groups_induction size with
  | nil => simp at h
  | cons x rest ih =>
    rw [groups_cons] at h
    cases others : rest.drop (size - 1) with
    | nil => simp [others] at h
    | cons y later =>
      -- A group after this one means that this one is full.
      have long : (rest.drop (size - 1)).length = later.length + 1 := by simp [others]
      rw [List.length_drop] at long
      have more : groups size (rest.drop (size - 1)) ≠ [] := by simp [others, groups_cons]
      rw [List.dropLast_cons_of_ne_nil more] at h
      rcases List.mem_cons.mp h with rfl | inner
      · simp only [List.length_cons, List.length_take]
        omega
      · exact ih inner

theorem groups_isGrouping {size : Nat} (pos : 0 < size) (xs : List α) :
    IsGrouping size xs (groups size xs) where
  flatten := flatten_groups size xs
  ne_nil _ h empty := nil_not_mem_groups size xs (empty ▸ h)
  length_le _ h := length_le_of_mem_groups pos h
  full _ h := length_of_mem_dropLast_groups pos h

end TelemetryRelay.Text
