/-!
# The shortest decimal

A binary floating-point number stands for the whole interval of reals that round to it. Its
shortest decimal is the one of fewest digits in that interval, the nearest of those where there
are two. With `n` digits the candidates are the two neighbours of the value on the grid of
`10 ^ k` for the `k` that leaves `n` digits, so the search tries `n = 1, 2, …` and tests two
points of each grid in exact arithmetic; seventeen digits always suffice.
-/

namespace SqlTemplate.Decimal

/-- Which of two equally near candidates is taken. -/
inductive Tie where
  /-- The larger one. -/
  | up
  /-- The one whose last digit is even. -/
  | even
  deriving DecidableEq, Repr

/-- The decimal `significand * 10 ^ exponent`. -/
structure Scientific where
  /-- The digits, read as one number. -/
  significand : Nat
  /-- The power of ten that the last digit counts. -/
  exponent : Int
  deriving DecidableEq, Repr

/-- The number of decimal digits of `n`, one for zero. -/
def digitCount (n : Nat) : Nat :=
  (Nat.toDigits 10 n).length

/-- The positive rational `value / unit` between the ends `low / unit` and `high / unit` of the
interval that rounds to it. -/
structure Interval where
  /-- The number itself. -/
  value : Nat
  /-- The lower end. -/
  low : Nat
  /-- The upper end. -/
  high : Nat
  /-- The common denominator. -/
  unit : Nat
  /-- Whether the ends belong to the interval. -/
  closed : Bool

namespace Interval

/-- The reals that round to `mantissa * 2 ^ exponent` in double precision. The gap below a power
of two is half the gap above it, except at the smallest exponent; the ends round to the number
exactly when its mantissa is even. -/
def ofBinary (mantissa : Nat) (exponent : Int) : Interval :=
  -- Everything is counted in quarters of the last binary place, so that the ends are whole.
  let up := Nat.pow 2 (exponent - 2).toNat
  let below := if mantissa = Nat.pow 2 52 ∧ exponent > -1074 then 1 else 2
  { value := 4 * mantissa * up
    low := (4 * mantissa - below) * up
    high := (4 * mantissa + 2) * up
    unit := Nat.pow 2 (2 - exponent).toNat
    closed := mantissa % 2 == 0 }

/-- The `k` with `10 ^ k ≤ value / unit < 10 ^ (k + 1)`. -/
def magnitude (i : Interval) : Int :=
  if i.unit ≤ i.value then (digitCount (i.value / i.unit) : Int) - 1
  else -(digitCount ((i.unit - 1) / i.value) : Int)

/-- The point `count * 10 ^ k` lies in the interval. -/
def contains (i : Interval) (k : Int) (count : Nat) : Bool :=
  let point := count * Nat.pow 10 k.toNat * i.unit
  let low := i.low * Nat.pow 10 (-k).toNat
  let high := i.high * Nat.pow 10 (-k).toNat
  if i.closed then low ≤ point && point ≤ high else low < point && point < high

/-- The greatest `count` with `count * 10 ^ k` not above the value. -/
def floorAt (i : Interval) (k : Int) : Nat :=
  i.value * Nat.pow 10 (-k).toNat / (i.unit * Nat.pow 10 k.toNat)

/-- Of the two grid points around the value, the upper one is the one to take. -/
def prefersUpper (i : Interval) (tie : Tie) (k : Int) : Bool :=
  let lower := i.floorAt k
  let twice := 2 * i.value * Nat.pow 10 (-k).toNat
  let middle := (2 * lower + 1) * (i.unit * Nat.pow 10 k.toNat)
  middle < twice || (middle == twice && (tie == .up || lower % 2 == 1))

/-- The grid point of `10 ^ k` in the interval that is nearest to the value, if there is one. -/
def nearest? (i : Interval) (tie : Tie) (k : Int) : Option Nat :=
  let lower := i.floorAt k
  match i.contains k lower, i.contains k (lower + 1) with
  | true, true => some (if i.prefersUpper tie k then lower + 1 else lower)
  | true, false => some lower
  | false, true => some (lower + 1)
  | false, false => none

end Interval

/-- The decimal of fewest digits that rounds to `mantissa * 2 ^ exponent`. -/
def shortest (tie : Tie) (mantissa : Nat) (exponent : Int) : Scientific :=
  let i := Interval.ofBinary mantissa exponent
  let top := i.magnitude
  -- The grid of `10 ^ (top - n)` gives `n + 1` digits.
  let found := (List.range 17).findSome? fun (n : Nat) =>
    let k := top - (n : Int)
    (i.nearest? tie k).map fun count => ⟨count, k⟩
  -- The grid of seventeen digits is finer than the interval is wide.
  found.getD ⟨i.floorAt (top - 16), top - 16⟩

end SqlTemplate.Decimal
