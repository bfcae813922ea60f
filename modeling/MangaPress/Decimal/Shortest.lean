/-
# The shortest decimal that reads back

A decimal reads back as a given double if it lies in the interval of numbers that round to it; the
ends belong to the interval iff the mantissa is even. `shortest` finds the coarsest grid of
numbers `d · 10 ^ e` with a point in the interval. Only the two neighbours of the value on the grid
need testing, for if any point of a grid lies in an interval around the value, then one of the
neighbours does. Of two hits the nearer one is taken, and the upper one in a tie.

Key definitions: `Double.Interval`, `Double.shortest`.
-/
import MangaPress.Decimal.Double

namespace MangaPress.Double

/-- A value and the bounds of the numbers that round to it, as multiples of `1 / den`. -/
structure Interval where
  low : Nat
  value : Nat
  high : Nat
  den : Nat
  closed : Bool
deriving Repr

/-- The numbers that round to a positive magnitude. -/
def Interval.of (magnitude : Nat) : Interval :=
  let m := mantissa magnitude
  let q := exponent magnitude
  -- the step to the next smaller double is half as wide at a power of two
  let below := if m = leadingBit ∧ -1074 < q then 1 else 2
  let scale := Nat.pow 2 q.toNat
  { low := (4 * m - below) * scale
    value := 4 * m * scale
    high := (4 * m + 2) * scale
    den := 4 * Nat.pow 2 (-q).toNat
    closed := m % 2 = 0 }

/-- Whether `d · 10 ^ e` lies in the interval. -/
def Interval.holds (i : Interval) (d : Nat) (e : Int) : Bool :=
  let x := d * Nat.pow 10 e.toNat * i.den
  let unit := Nat.pow 10 (-e).toNat
  if i.closed then decide (i.low * unit ≤ x) && decide (x ≤ i.high * unit)
  else decide (i.low * unit < x) && decide (x < i.high * unit)

/-- The point of the grid `· 10 ^ e` that reads back, if there is one. -/
def Interval.onGrid? (i : Interval) (e : Int) : Option Nat :=
  let num := i.value * Nat.pow 10 (-e).toNat
  let den := i.den * Nat.pow 10 e.toNat
  let d := num / den
  match i.holds d e, i.holds (d + 1) e with
  | true, true => if 2 * (num % den) < den then some d else some (d + 1)
  | true, false => some d
  | false, true => some (d + 1)
  | false, false => none

/-- Tries the grids from exponent `e` downward; the finest of them is written as it comes. -/
def Interval.search (i : Interval) : Nat → Int → Nat × Int
  | 0, e => (i.value * Nat.pow 10 (-e).toNat / (i.den * Nat.pow 10 e.toNat), e)
  | fuel + 1, e =>
    match i.onGrid? e with
    | some d => (d, e)
    | none => i.search fuel (e - 1)

/-- The decimal exponent of a number: the largest `k` of at most 308 with `10 ^ k` not above it. -/
def Interval.decade (i : Interval) : Nat → Int → Int
  | 0, k => k
  | fuel + 1, k =>
    if Nat.pow 10 k.toNat * i.den ≤ i.value * Nat.pow 10 (-k).toNat then k else i.decade fuel (k - 1)

/-- The digits `d` and the exponent `e` of the shortest decimal `d · 10 ^ e` that reads back as
the magnitude, and among those the nearest to it. -/
def shortest (magnitude : Nat) : Nat × Int :=
  if magnitude = 0 then (0, 0)
  else
    let i := Interval.of magnitude
    i.search 20 (i.decade 700 308)

end MangaPress.Double
