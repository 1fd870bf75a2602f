/-
# The fewest digits that read back

A positive double is the nearest double to every real of an interval around it: its ends lie half
way to the neighbouring doubles, and belong to it iff the mantissa is even.  Of the decimal numbers
in that interval `ofDouble` takes one with the fewest digits, of those the nearest to the double,
and of two the greater.

On the grid of `n`-digit decimals only the neighbours of the double itself can be in the interval
without some nearer one being in it too, so the search looks at those two for `n = 1, 2, …, 17`;
seventeen digits always suffice.
-/

import Loadable.Double

namespace Loadable
namespace Decimal

/-- The positive number `digits · 10 ^ exponent`. -/
structure Digits where
  digits : Nat
  exponent : Int
  deriving DecidableEq, Repr

/-- The reals that round to a double, over a common denominator. -/
structure Interval where
  low : Nat
  value : Nat
  high : Nat
  denominator : Nat
  /-- Whether the ends round to the double too. -/
  closed : Bool
  deriving Repr

namespace Interval

/-- The interval of a positive finite double.  Below a power of two the neighbour is half as far. -/
def ofDouble (d : Double) : Interval :=
  let m := 4 * d.mantissa
  let q := d.exponent - 2
  let below := if d.fraction = 0 ∧ 1 < d.biased then 1 else 2
  { low := (m - below) <<< q.toNat, value := m <<< q.toNat, high := (m + 2) <<< q.toNat
    denominator := 1 <<< (-q).toNat, closed := d.mantissa % 2 = 0 }

/-- Whether `n / unit`, over the interval's denominator, lies in the interval. -/
def has (i : Interval) (n unit : Nat) : Bool :=
  if i.closed then i.low * unit ≤ n && n ≤ i.high * unit else i.low * unit < n && n < i.high * unit

/-- The nearer of the two `10 ^ place`-multiples around the value that lie in the interval. -/
def atPlace? (i : Interval) (place : Int) : Option Nat :=
  let unit := Nat.pow 10 (-place).toNat
  let step := i.denominator * Nat.pow 10 place.toNat
  let below := i.value * unit / step
  let rest := i.value * unit % step
  let hasBelow := i.has (below * step) unit
  let hasAbove := i.has ((below + 1) * step) unit
  if hasAbove && (!hasBelow || step ≤ 2 * rest) then some (below + 1)
  else if hasBelow then some below
  else none

/-- The number of digits before the point: the least `k` with value below `10 ^ k`.  The count of
binary places gives it up to a few units. -/
def places (i : Interval) : Int :=
  let guess := ((i.value.log2 : Int) - i.denominator.log2) * 30103 / 100000 - 2
  let isBelow (k : Int) : Bool :=
    i.value * Nat.pow 10 (-k).toNat < i.denominator * Nat.pow 10 k.toNat
  guess + (((List.range 6).find? fun (j : Nat) => isBelow (guess + j)).getD 6 : Nat)

end Interval

/-- The digits without zeros at the end; `fuel` bounds their number. -/
def Digits.trimmed : Nat → Digits → Digits
  | 0, d => d
  | fuel + 1, d =>
    if d.digits % 10 = 0 then trimmed fuel ⟨d.digits / 10, d.exponent + 1⟩ else d

/-- The shortest decimal that reads back as the absolute value of a finite double that is not
zero. -/
def shortest (d : Double) : Digits :=
  let i := Interval.ofDouble d
  let k := i.places
  let found := (List.range 17).findSome? fun (n : Nat) =>
    (i.atPlace? (k - (n + 1))).map fun digits => (⟨digits, k - (n + 1)⟩ : Digits)
  (found.getD ⟨i.value * Nat.pow 10 17 / i.denominator, -17⟩).trimmed 18

end Decimal
end Loadable
