namespace TelemetryRelay.Text

def groupsOnto {α : Type} (done : List (List α)) (size : Nat) (xs : List α) : List (List α) :=
  match xs with
  | [] => done.reverse
  | x :: rest =>
    groupsOnto ((x :: rest.take (size - 1)) :: done) size (rest.drop (size - 1))
termination_by xs.length
decreasing_by
  simp only [List.length_drop, List.length_cons]
  omega

/-- The groups of `size` in order, none of them empty; a size of zero counts as one. -/
def groups {α : Type} (size : Nat) (xs : List α) : List (List α) :=
  groupsOnto [] size xs

end TelemetryRelay.Text
