namespace TelemetryRelay.Binary64

def twoTo (n : Nat) : Nat :=
  Nat.pow 2 n

/-- The quotient rounded to the nearest integer, a half to the even one. -/
def roundHalfEven (num den : Nat) : Nat :=
  let q := num / den
  let r := num % den
  if 2 * r < den then q
  else if den < 2 * r then q + 1
  else if q % 2 = 0 then q else q + 1

def isNegative (v : Float) : Bool :=
  v.toBits.toNat / twoTo 63 == 1

def exponentField (v : Float) : Nat :=
  v.toBits.toNat / twoTo 52 % twoTo 11

def fractionField (v : Float) : Nat :=
  v.toBits.toNat % twoTo 52

def isFinite (v : Float) : Bool :=
  exponentField v != 2047

def isNaN (v : Float) : Bool :=
  exponentField v == 2047 && fractionField v != 0

def significand (v : Float) : Nat :=
  if exponentField v = 0 then fractionField v else fractionField v + twoTo 52

def step (v : Float) : Nat :=
  exponentField v - 1

/-- The magnitude of a finite double in units of `2 ^ -1074`: it is `significand` times `2 ^ step`
of them. -/
def units (v : Float) : Nat :=
  significand v * twoTo (step v)

/-- The bits, without sign, of infinity. Below them are the finite doubles in order. -/
def infinityBits : Nat :=
  2047 * twoTo 52

/-- The bits of the double nearest to `num / den`, a tie going to the even significand; at least
`infinityBits` if that is beyond the largest double. -/
def nearestBits (num den : Nat) : Nat :=
  let scaled := num * twoTo 1074
  let shift := (scaled / den).log2 - 52
  shift * twoTo 52 + roundHalfEven scaled (den * twoTo shift)

def ofSignedBits (negative : Bool) (bits : Nat) : Float :=
  Float.ofBits (UInt64.ofNat ((if negative then twoTo 63 else 0) + bits))

end TelemetryRelay.Binary64
