/-
# Reals with a fixed number of places

The value of a double is a quotient, so its multiple by a power of ten has an exact nearest integer;
of two equally near the even one is taken.

* `roundDiv_near`: the result is within half a unit;
* `roundDiv_tie`: in the middle it is even.
-/

import Loadable.Decimal.Layout

namespace Loadable
namespace Decimal

/-- The integer nearest to `num / den`, the even one of two. -/
def roundDiv (num den : Nat) : Nat :=
  let below := num / den
  let rest := num % den
  if 2 * rest < den ∨ 2 * rest = den ∧ below % 2 = 0 then below else below + 1

theorem roundDiv_near (num den : Nat) (h : 0 < den) :
    2 * num ≤ 2 * (roundDiv num den * den) + den ∧
      2 * (roundDiv num den * den) ≤ 2 * num + den := by
  have hd := Nat.div_add_mod num den
  have hm := Nat.mod_lt num h
  have hc : num / den * den = den * (num / den) := Nat.mul_comm ..
  unfold roundDiv
  dsimp only
  split
  · constructor <;> omega
  · have hs : (num / den + 1) * den = num / den * den + den := Nat.succ_mul ..
    constructor <;> omega

theorem roundDiv_tie (num den : Nat) (h : 2 * (num % den) = den) :
    roundDiv num den % 2 = 0 := by
  unfold roundDiv
  dsimp only
  split
  · omega
  · omega

/-- The digits of `n / 10 ^ places`. -/
def fixedDigits (places n : Nat) : List Char :=
  let ds := natDigits n
  let padded := List.replicate (places + 1 - ds.length) '0' ++ ds
  padded.take (padded.length - places) ++ ['.'] ++ padded.drop (padded.length - places)

/-- A double with the given number of places, at least one. -/
def fixed (places : Nat) (d : Double) : String :=
  String.ofList <|
    if d.isNaN then ['N', 'a', 'N']
    else (if d.isNegative then ['-'] else [])
      ++ (if d.isInfinite then ['i', 'n', 'f']
          else fixedDigits places
            (roundDiv ((d.mantissa <<< d.exponent.toNat) * Nat.pow 10 places)
              (1 <<< (-d.exponent).toNat)))

end Decimal
end Loadable
