/-
# How a real is written

`Layout.write` writes the shortest digits of a double by a layout, which says where a point is kept
although only zeros would follow, and which magnitudes take an exponent.  There are two layouts:
`plain`, which texts made from values use, and `pointed`, in which a value is shown.
-/

import Loadable.Decimal.Shortest

namespace Loadable
namespace Decimal

/-- The choices left open by the digits. -/
structure Layout where
  /-- An integer gets `.0`. -/
  keepsPoint : Bool
  /-- The number of digits before the point from which on, and the (non-positive) number up to which,
  an exponent is written; `none` for never. -/
  exponents : Option (Int × Int)

/-- Never an exponent and no superfluous point: `1`, `0.1`, `100000000000000000000`. -/
def plain : Layout := ⟨false, none⟩

/-- Always a point or an exponent, the latter below a ten-thousandth and from `10 ^ 16` on:
`1.0`, `1e16`, `1.5e-5`. -/
def pointed : Layout := ⟨true, some (17, -4)⟩

/-- The decimal digits of a natural number. -/
def natDigits (n : Nat) : List Char := Nat.toDigits 10 n

/-- The decimal form of an integer. -/
def intText (n : Int) : List Char :=
  if n < 0 then '-' :: natDigits n.natAbs else natDigits n.natAbs

/-- Digits with a point after the first `k` of them, filled with zeros on either side. -/
def positional (keepsPoint : Bool) (ds : List Char) (k : Int) : List Char :=
  if k ≤ 0 then ['0', '.'] ++ List.replicate (-k).toNat '0' ++ ds
  else if ds.length ≤ k.toNat then
    ds ++ List.replicate (k.toNat - ds.length) '0' ++ (if keepsPoint then ['.', '0'] else [])
  else ds.take k.toNat ++ ['.'] ++ ds.drop k.toNat

/-- One digit, the others behind a point, and the exponent. -/
def scientific (ds : List Char) (k : Int) : List Char :=
  ds.take 1 ++ (if ds.length ≤ 1 then [] else '.' :: ds.drop 1) ++ ['e'] ++ intText (k - 1)

/-- The text of a positive number with digits `ds`, `k` of them before the point. -/
def Layout.positive (l : Layout) (ds : List Char) (k : Int) : List Char :=
  match l.exponents with
  | some (high, low) =>
    if high ≤ k ∨ k ≤ low then scientific ds k else positional l.keepsPoint ds k
  | none => positional l.keepsPoint ds k

/-- The text of the absolute value of a finite double. -/
def Layout.magnitude (l : Layout) (d : Double) : List Char :=
  if d.mantissa = 0 then '0' :: (if l.keepsPoint then ['.', '0'] else [])
  else
    let short := shortest d
    let ds := natDigits short.digits
    l.positive ds (ds.length + short.exponent)

/-- The text of a double; only a NaN is written without its sign. -/
def Layout.write (l : Layout) (d : Double) : String :=
  String.ofList <|
    if d.isNaN then ['N', 'a', 'N']
    else (if d.isNegative then ['-'] else [])
      ++ (if d.isInfinite then ['i', 'n', 'f'] else l.magnitude d)

end Decimal
end Loadable
