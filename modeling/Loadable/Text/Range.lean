/-
# Sets of characters given by ranges

A property of characters that no formula describes is a table of ranges of scalar values, each with
a step: the member values are `first, first + step, …` up to `last`.  Steps of two are common where
capital and small letters alternate.
-/

namespace Loadable
namespace Text

/-- The scalar values `first`, `first + step`, … that are at most `last`. -/
structure Range where
  first : Nat
  last : Nat
  step : Nat := 1
  deriving Repr, DecidableEq

/-- Whether a scalar value is one of the range. -/
def Range.contains (r : Range) (n : Nat) : Bool :=
  r.first ≤ n && n ≤ r.last && (n - r.first) % r.step == 0

/-- A table of ranges, in ascending order. -/
abbrev Ranges := Array Range

/-- Whether some range of the table has the character. -/
def Ranges.contains (t : Ranges) (c : Char) : Bool := t.any fun r => r.contains c.toNat

/-- What holds of the characters of all numbers below a bound holds of the characters below it. -/
theorem of_forall_ofNat {P : Char → Prop} {bound : Nat} (h : ∀ n < bound, P (Char.ofNat n)) {c : Char}
    (hc : c.toNat < bound) : P c := by
  have hP := h c.toNat hc
  rwa [Char.ofNat_toNat] at hP

end Text
end Loadable
