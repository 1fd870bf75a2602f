/-
# Reading numbers

`readReal?` takes an optional sign and then digits with at most one point, of which at least one
digit, and an optional exponent; or a name of infinity or of not-a-number in capital or small
letters.  The value is rounded once.  `readInt?` takes an optional sign and digits; it refuses what
64 bits do not hold.  Neither takes blanks.
-/

import Loadable.Double
import Loadable.Text.IdentifierChar

namespace Loadable
namespace Decimal

open Text (isAsciiDigit)

/-- The number that a row of digits is the decimal form of. -/
def digitsValue (ds : List Char) : Nat := ds.foldl (fun n c => 10 * n + (c.toNat - 48)) 0

/-- Split off a sign: whether it is a minus, and the rest. -/
def splitSign : List Char → Bool × List Char
  | '-' :: cs => (true, cs)
  | '+' :: cs => (false, cs)
  | cs => (false, cs)

/-- The 64-bit integer that a text denotes. -/
def readInt? (cs : List Char) : Option Int64 :=
  let (negative, ds) := splitSign cs
  if ds.isEmpty || !ds.all isAsciiDigit then none
  else
    let n : Int := if negative then -digitsValue ds else digitsValue ds
    if leastInt ≤ n ∧ n ≤ greatestInt then some (Int64.ofInt n) else none

/-- An exponent, which must be all that is left. -/
def readExponent? (cs : List Char) : Option Int :=
  let (negative, ds) := splitSign cs
  if ds.isEmpty || !ds.all isAsciiDigit then none
  else some (if negative then -digitsValue ds else digitsValue ds)

/-- The double nearest to `n · 10 ^ e`.  With `k` digits in `n`, the value is above every double if
`k + e` is above 310, and below half the least one if it is below -330. -/
def nearestScaled (n : Nat) (k : Nat) (e : Int) : Double :=
  if n = 0 then ⟨0⟩
  else if 310 < k + e then Double.infinity
  else if k + e < -330 then ⟨0⟩
  else if 0 ≤ e then .ofFloat (Float.ofScientific n false e.toNat)
  else .ofFloat (Float.ofScientific n true (-e).toNat)

/-- The same double with the other sign. -/
def negate (d : Double) : Double := ⟨d.bits ^^^ 0x8000000000000000⟩

/-- An ASCII letter in lower case, any other character itself. -/
def asciiLower (c : Char) : Char :=
  if 'A' ≤ c ∧ c ≤ 'Z' then Char.ofNat (c.toNat + 32) else c

/-- A number without sign. -/
def readUnsigned? (cs : List Char) : Option Double :=
  let whole := cs.takeWhile isAsciiDigit
  let afterWhole := cs.dropWhile isAsciiDigit
  let (places, afterPlaces) : List Char × List Char := match afterWhole with
    | '.' :: rest => (rest.takeWhile isAsciiDigit, rest.dropWhile isAsciiDigit)
    | rest => ([], rest)
  let ds := whole ++ places
  let value (e : Int) : Double :=
    let significant := ds.dropWhile (· = '0')
    nearestScaled (digitsValue ds) significant.length (e - places.length)
  if ds.isEmpty then none
  else match afterPlaces with
    | [] => some (value 0)
    | c :: rest => if c = 'e' ∨ c = 'E' then (readExponent? rest).map value else none

/-- The double that a text denotes. -/
def readReal? (cs : List Char) : Option Double :=
  let (negative, rest) := splitSign cs
  let magnitude : Option Double :=
    match String.ofList (rest.map asciiLower) with
    | "inf" | "infinity" => some Double.infinity
    | "nan" => some Double.nan
    | _ => readUnsigned? rest
  if negative then magnitude.map negate else magnitude

end Decimal
end Loadable
