namespace TelemetryRelay.Digits

/-- Joins neighbours: digits of base `base`, the lowest first, to digits of its square. -/
def pairUp (base : Nat) : List Nat → List Nat
  | low :: high :: rest => (low + base * high) :: pairUp base rest
  | rest => rest

theorem length_pairUp_le (base : Nat) (ds : List Nat) :
    (pairUp base ds).length ≤ (ds.length + 1) / 2 := by
  induction ds using pairUp.induct with
  | case1 low high rest ih => simp only [pairUp, List.length_cons]; omega
  | case2 rest h =>
    match rest, h with
    | [], _ => simp [pairUp]
    | [d], _ => simp [pairUp]
    | low :: high :: more, h => exact absurd rfl (h low high more)

/-- The number with these digits, the lowest first. Joining neighbours until one digit is left takes
few operations on large numbers; `value_eq_foldr` says that it is the sum of the digits by their
weights. -/
def value (base : Nat) (ds : List Nat) : Nat :=
  match ds with
  | [] => 0
  | [d] => d
  | low :: high :: rest => value (base * base) (pairUp base (low :: high :: rest))
termination_by ds.length
decreasing_by
  have := length_pairUp_le base (low :: high :: rest)
  simp only [List.length_cons] at this ⊢
  omega

theorem foldr_pairUp (base : Nat) (ds : List Nat) :
    (pairUp base ds).foldr (fun d n => d + base * base * n) 0 =
      ds.foldr (fun d n => d + base * n) 0 := by
  induction ds using pairUp.induct with
  | case1 low high rest ih =>
    simp only [pairUp, List.foldr_cons, ih]
    simp only [Nat.mul_add, Nat.mul_assoc, Nat.add_assoc]
  | case2 rest h =>
    match rest, h with
    | [], _ => rfl
    | [d], _ => simp [pairUp]
    | low :: high :: more, h => exact absurd rfl (h low high more)

theorem value_eq_foldr (base : Nat) (ds : List Nat) :
    value base ds = ds.foldr (fun d n => d + base * n) 0 := by
  induction base, ds using value.induct with
  | case1 base => simp [value]
  | case2 base d => simp [value]
  | case3 base low high rest ih => rw [value, ih, foldr_pairUp]

def decimal (cs : List Char) : Nat :=
  value 10 (cs.reverse.map fun c => c.toNat - '0'.toNat)

end TelemetryRelay.Digits
