import FluentRecords.Decimal.Binary64
import FluentRecords.Text.Basic

/-!
The shortest decimal text of a double-precision number: the fewest significant digits that read back to
the same number, and of those the nearest. It is positional from `0.0001` up to `10 ^ 16` and in
exponent form outside.
-/

namespace FluentRecords

/-- A positive decimal `d₀.d₁d₂… * 10 ^ exponent`. -/
structure DecimalDigits where
  digits : List Nat
  exponent : Int
deriving DecidableEq, Repr

namespace DecimalDigits

/-- Removes trailing zeros, but keeps one digit. -/
def trim (x : DecimalDigits) : DecimalDigits :=
  match (x.digits.reverse.dropWhile (· == 0)).reverse with
  | [] => ⟨[0], x.exponent⟩
  | ds => ⟨ds, x.exponent⟩

/-- The greatest `p` with `10 ^ p` at most the ratio, starting from an estimate that is not too high and
at most `fuel` too low. -/
def log10From (num den : Nat) (p : Int) : Nat → Int
  | 0 => p
  | fuel + 1 =>
    let (n, d) := Binary64.scale 10 (-(p + 1)) num den
    if n < d then p else log10From num den (p + 1) fuel

/-- The greatest `p` with `10 ^ p` at most the ratio of two positive naturals. -/
def log10Ratio (num den : Nat) : Int :=
  let k := Binary64.log2Ratio num den
  log10From num den (k * 30103 / 100000 - 1) 4

/-- Whether `n / d` lies between the ends `lo / d` and `hi / d`, which count only if `closed`. -/
def within (closed : Bool) (lo hi n : Nat) : Bool :=
  if closed then lo ≤ n && n ≤ hi else lo < n && n < hi

/-- The decimal with `count` digits that lies in the rounding interval of `m * 2 ^ q`, if there is one;
the nearer of the two neighbours on the grid is preferred, then the even one. -/
def withCount? (m : Nat) (q : Int) (count : Nat) : Option DecimalDigits :=
  let lowGap := if m = Nat.pow 2 52 && -1074 < q then 1 else 2
  let (v, den) := Binary64.scale 2 q m 1
  let p := log10Ratio v den
  let g := p - count + 1
  -- over the common denominator `4 * den` the value, the ends and the grid step are naturals
  let (unit, _) := Binary64.scale 2 q 1 1
  let (step, up) : Nat × Nat :=
    if g < 0 then (4 * den, Nat.pow 10 g.natAbs) else (4 * den * Nat.pow 10 g.natAbs, 1)
  let value := 4 * v * up
  let lo := (4 * v - lowGap * unit) * up
  let hi := (4 * v + 2 * unit) * up
  let below := value / step
  let closed := m % 2 = 0
  let downOk := within closed lo hi (below * step)
  let upOk := within closed lo hi ((below + 1) * step)
  let distDown := value - below * step
  let distUp := (below + 1) * step - value
  let chosen :=
    if downOk && upOk then
      if distDown < distUp then some below
      else if distUp < distDown then some (below + 1)
      else some (below + below % 2)
    else if downOk then some below
    else if upOk then some (below + 1)
    else none
  chosen.map fun n =>
    let ds := (Nat.toDigits 10 n).map fun c => c.toNat - 48
    trim ⟨ds, g + ds.length - 1⟩

/-- The first digit count from `count` on that reads back; seventeen always do. -/
def shortestFrom (m : Nat) (q : Int) (count : Nat) : Nat → DecimalDigits
  | 0 => ⟨[0], 0⟩
  | fuel + 1 => (withCount? m q count).getD (shortestFrom m q (count + 1) fuel)

/-- The shortest decimal that reads back as `m * 2 ^ q`. -/
def shortest (m : Nat) (q : Int) : DecimalDigits :=
  if m = 0 then ⟨[0], 0⟩ else shortestFrom m q 1 17

/-- Digits as text. -/
def digitText (ds : List Nat) : Text :=
  ds.map (48 + ·)

/-- Positional notation; `point` asks for a fraction even of a whole number. -/
def positional (point : Bool) (x : DecimalDigits) : Text :=
  if x.exponent < 0 then
    "0." ++ digitText (List.replicate (x.exponent.natAbs - 1) 0 ++ x.digits)
  else
    let whole := x.exponent.natAbs + 1
    let digits := x.digits ++ List.replicate (whole - x.digits.length) 0
    let fraction := digits.drop whole
    digitText (digits.take whole) ++
      if fraction.isEmpty then Text.when point ".0" else "." ++ digitText fraction

/-- Exponent notation with a sign and at least two exponent digits. -/
def scientific (x : DecimalDigits) : Text :=
  let mantissa := match x.digits with
    | d :: rest@(_ :: _) => digitText [d] ++ "." ++ digitText rest
    | ds => digitText ds
  let e := Text.ofNat x.exponent.natAbs
  mantissa ++ "e" ++ (if x.exponent < 0 then "-" else "+")
    ++ Text.when (e.length < 2) "0" ++ e

end DecimalDigits

namespace Binary64

/-- The text of a size. -/
def Magnitude.text (point : Bool) : Magnitude → Text
  | .infinite => "inf"
  | .finite m q =>
    let x := DecimalDigits.shortest m q
    if x.exponent < -4 || 16 ≤ x.exponent then x.scientific else x.positional point

/-- The shortest text of a number, with `.0` after a whole one. -/
def text (x : Binary64) : Text :=
  Text.when x.negative "-" ++ Magnitude.text true x.magnitude

/-- The shortest text of a number, whole ones without a fraction. -/
def shortText (x : Binary64) : Text :=
  Text.when x.negative "-" ++ Magnitude.text false x.magnitude

end Binary64

end FluentRecords
