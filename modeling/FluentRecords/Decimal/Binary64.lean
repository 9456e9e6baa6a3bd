/-!
Double-precision numbers as exact values. A finite magnitude is `m * 2 ^ q` with `m` below `2 ^ 53` and
`q` at least `-1074`; a ratio of naturals is rounded to the nearest one, a half to the even neighbour.
-/

namespace FluentRecords

/-- The size of a double-precision number. -/
inductive Magnitude
  | finite (m : Nat) (q : Int)
  | infinite
deriving DecidableEq, Repr

/-- A double-precision number: a sign and a size, so that zero has both signs. -/
structure Binary64 where
  negative : Bool
  magnitude : Magnitude
deriving DecidableEq, Repr

namespace Binary64

/-- The positive zero. -/
def zero : Binary64 := ⟨false, .finite 0 (-1074)⟩

/-- The number of the opposite sign. -/
def neg (x : Binary64) : Binary64 := ⟨!x.negative, x.magnitude⟩

/-- Scales a numerator and a denominator by a power of the base, which may be negative. -/
def scale (base : Nat) (e : Int) (num den : Nat) : Nat × Nat :=
  if e < 0 then (num, den * Nat.pow base e.natAbs) else (num * Nat.pow base e.natAbs, den)

/-- The quotient rounded to the nearest natural, a half to the even neighbour. -/
def roundDiv (num den : Nat) : Nat :=
  let d := num / den
  let r := 2 * (num % den)
  if r < den then d else if den < r then d + 1 else d + d % 2

/-- The greatest `k` with `2 ^ k` at most the ratio of two positive naturals. -/
def log2Ratio (num den : Nat) : Int :=
  let k : Int := (Nat.log2 num : Int) - Nat.log2 den
  let (n, d) := scale 2 (-k) num den
  if n < d then k - 1 else k

/-- The size nearest to a ratio with positive denominator. -/
def Magnitude.ofRatio (num den : Nat) : Magnitude :=
  if num = 0 then .finite 0 (-1074)
  else
    let q := max (log2Ratio num den - 52) (-1074)
    let (n, d) := scale 2 (-q) num den
    let m := roundDiv n d
    let (m, q) := if m = Nat.pow 2 53 then (Nat.pow 2 52, q + 1) else (m, q)
    if 971 < q then .infinite else .finite m q

/-- The number nearest to `digits * 10 ^ e`. Exponents far outside the range are cut short. -/
def ofDecimal (digits : Nat) (e : Int) : Binary64 :=
  let size : Int := (Nat.toDigits 10 digits).length + e
  if digits = 0 || size < -330 then zero
  else if 320 < size then ⟨false, .infinite⟩
  else
    let (n, d) := scale 10 e digits 1
    ⟨false, Magnitude.ofRatio n d⟩

/-- The number nearest to an integer. -/
def ofInt (i : Int) : Binary64 :=
  ⟨i < 0, Magnitude.ofRatio i.natAbs 1⟩

/-- The integer a number is equal to, if it is one. -/
def toInt? (x : Binary64) : Option Int :=
  match x.magnitude with
  | .infinite => none
  | .finite m q =>
    let (n, d) := scale 2 q m 1
    if n % d = 0 then some (if x.negative then -(n / d : Nat) else (n / d : Nat)) else none

/-- Equality as numbers: the two zeros are equal. -/
def same (x y : Binary64) : Bool :=
  match x.magnitude, y.magnitude with
  | .infinite, .infinite => x.negative == y.negative
  | .finite m q, .finite m' q' =>
    if m = 0 || m' = 0 then m == m' else x.negative == y.negative && m == m' && q == q'
  | _, _ => false

end Binary64

end FluentRecords
