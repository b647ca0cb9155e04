/-
# AdmissionGate.Number.Shortest -- the fewest digits that read back

A finite binary fraction `m * 2 ^ q` stands for every real number that rounds to
it: those up to half a step away, the ends included exactly when `m` is even.
Among the decimal numbers in that interval `shortest` takes one with the fewest
significant digits, and of those the nearest one.

For 1, 2, ... digits it tests the two neighbours of the value on the decimal grid
of that many digits, in exact integer arithmetic.  If any point of a grid lies
in the interval then so does one of the two neighbours, so the first grid with a
hit is the coarsest one.
-/
import AdmissionGate.Text.Basic

namespace AdmissionGate

/-- A positive decimal number: the digits after the point of `0.d₁d₂d₃...`, times a power of ten. -/
structure Decimal where
  digits : List Nat
  /-- The power of ten, that is the number of digits before the point. -/
  point : Int
  deriving DecidableEq, Repr

/-- A positive binary fraction `mantissa * 2 ^ exponent`. -/
structure Binary where
  mantissa : Nat
  exponent : Int
  /-- The step below the value is half the step above it. -/
  narrowBelow : Bool
  deriving DecidableEq, Repr

namespace Binary

/-- The power of a base, as a numerator and a denominator. -/
def power (base : Nat) : Int → Nat × Nat
  | .ofNat n => (Nat.pow base n, 1)
  | .negSucc n => (1, Nat.pow base (n + 1))

/-- The number of decimal digits before the point; zero or less for a value below one tenth. -/
def magnitude (x : Binary) : Int :=
  let (num, den) := power 2 x.exponent
  ((Nat.toDigits 10 (x.mantissa * num * Nat.pow 10 400 / den)).length : Int) - 400

/-- The multiple of `10 ^ grid` that lies in the rounding interval and is nearest to the value. -/
def onGrid? (x : Binary) (grid : Int) : Option Nat :=
  let (un, ud) := power 2 (x.exponent - 2)
  let (gn, gd) := power 10 grid
  let unit := un * gd
  let step := gn * ud
  let value := 4 * x.mantissa * unit
  let low := (4 * x.mantissa - if x.narrowBelow then 1 else 2) * unit
  let high := (4 * x.mantissa + 2) * unit
  let inside (d : Nat) : Bool :=
    if x.mantissa % 2 = 0 then low ≤ d * step && d * step ≤ high
    else low < d * step && d * step < high
  let below := value / step
  let above := below + 1
  let toBelow := value - below * step
  let toAbove := above * step - value
  if inside below && (!inside above || toBelow < toAbove || (toBelow == toAbove && below % 2 == 0))
  then some below
  else if inside above then some above
  else none

/-- The decimal `n * 10 ^ grid`, without zeros at its end. -/
def decimal (n : Nat) (grid : Int) : Decimal :=
  let digits := (Nat.toDigits 10 n).map fun c => c.toNat - 48
  ⟨(digits.reverse.dropWhile (· == 0)).reverse, grid + digits.length⟩

/-- The first hit among grids of rising fineness. -/
def shortestFrom (x : Binary) : (grids : Nat) → (grid : Int) → Decimal
  | 0, grid => decimal ((x.onGrid? grid).getD 0) grid
  | more + 1, grid =>
    match x.onGrid? grid with
    | some n => decimal n grid
    | none => x.shortestFrom more (grid - 1)

/-- The decimal number with the fewest digits that rounds to the value; seventeen always do. -/
def shortest (x : Binary) : Decimal := x.shortestFrom 17 (x.magnitude - 1)

end Binary

end AdmissionGate
