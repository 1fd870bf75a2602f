/-
# Double-precision reals

A real is carried as its 64 bits, so that its pattern survives storage whatever it is.  Arithmetic
goes through `Float`; what needs an exact view takes a finite real apart as `± m · 2 ^ q`.

* `truncate` and `nearest` give the integer part and the nearest integer, a half away from zero,
  limited to 64 bits; for a NaN both are zero.
* `hypotenuse` is the double nearest to the square root of a sum of two squares.
-/

namespace Loadable

/-- A real in IEEE 754 double precision, by its bits. -/
structure Double where
  bits : UInt64
  deriving DecidableEq, Repr, Inhabited

/-- The least and the greatest 64-bit integer. -/
abbrev leastInt : Int := -0x8000000000000000

@[inherit_doc leastInt] abbrev greatestInt : Int := 0x7FFFFFFFFFFFFFFF

/-- The 64-bit integer nearest to an integer. -/
def saturate (n : Int) : Int64 := Int64.ofInt (max leastInt (min n greatestInt))

namespace Double

/-- The bits of a `Float`. -/
def ofFloat (x : Float) : Double := ⟨x.toBits⟩

/-- The `Float` of the same value.  A NaN loses its payload. -/
def toFloat (d : Double) : Float := Float.ofBits d.bits

/-- The nearest double to an integer. -/
def ofInt (n : Int) : Double := ofFloat (Float.ofInt n)

instance : Add Double := ⟨fun a b => ofFloat (a.toFloat + b.toFloat)⟩

instance : Sub Double := ⟨fun a b => ofFloat (a.toFloat - b.toFloat)⟩

instance : Mul Double := ⟨fun a b => ofFloat (a.toFloat * b.toFloat)⟩

instance : Div Double := ⟨fun a b => ofFloat (a.toFloat / b.toFloat)⟩

instance : OfNat Double 0 := ⟨⟨0⟩⟩

/-- The sign bit. -/
def isNegative (d : Double) : Bool := 0x8000000000000000 ≤ d.bits.toNat

/-- The first binary digit of a mantissa, above its fifty-two stored ones. -/
abbrev leadingOne : Nat := 0x10000000000000

/-- The exponent field. -/
def biased (d : Double) : Nat := d.bits.toNat / leadingOne % 2048

/-- The fraction field. -/
def fraction (d : Double) : Nat := d.bits.toNat % leadingOne

def isNaN (d : Double) : Bool := d.biased == 2047 && d.fraction != 0

def isInfinite (d : Double) : Bool := d.biased == 2047 && d.fraction == 0

def isFinite (d : Double) : Bool := d.biased != 2047

/-- The `m` of the absolute value `m · 2 ^ q` of a finite double. -/
def mantissa (d : Double) : Nat := if d.biased = 0 then d.fraction else d.fraction + leadingOne

/-- The `q` of the absolute value `m · 2 ^ q` of a finite double. -/
def exponent (d : Double) : Int := (max d.biased 1 : Nat) - 1075

/-- Equality of reals: the two zeros are equal and a NaN equals nothing. -/
def eqv (a b : Double) : Bool := a.toFloat == b.toFloat

/-- Whether two reals differ by at most a unit in the last place of the first one or of `1`. -/
def closeTo (a b : Double) : Bool :=
  let size := a.toFloat.abs
  (a.toFloat - b.toFloat).abs ≤ Float.ofBits 0x3CB0000000000000 * (if 1 < size then size else 1)

/-- `n` with the sign of the double. -/
def signed (d : Double) (n : Nat) : Int := if d.isNegative then -n else n

/-- The integer part, limited to 64 bits. -/
def truncate (d : Double) : Int64 :=
  if d.isNaN then 0
  else saturate (d.signed
    (if 0 ≤ d.exponent then d.mantissa <<< d.exponent.toNat
      else d.mantissa >>> (-d.exponent).toNat))

/-- The nearest integer, of two the one farther from zero, limited to 64 bits. -/
def nearest (d : Double) : Int64 :=
  if d.isNaN then 0
  else saturate (d.signed
    (if 0 ≤ d.exponent then d.mantissa <<< d.exponent.toNat
      else (2 * d.mantissa + 1 <<< (-d.exponent).toNat) >>> ((-d.exponent).toNat + 1)))

/-- Every NaN that an operation makes. -/
def nan : Double := ⟨0x7FF8000000000000⟩

def infinity : Double := ⟨0x7FF0000000000000⟩

/-- The double nearest to `n · 2 ^ q`. -/
def ofBinary (n : Nat) (q : Int) : Double :=
  ofFloat (if 0 ≤ q then Float.ofScientific (n <<< q.toNat) false 0
    else Float.ofScientific (n * Nat.pow 5 (-q).toNat) true (-q).toNat)

/-- The double nearest to `√(a² + b²)`; infinite if a side is, else a NaN if a side is.

The sum of squares is scaled until its integer root `r` has more than twice the places of a double.
Where `r` is not exact, `2 r + 1` stands for the root: it rounds as the root does, because no double
and no middle of two lies between them. -/
def hypotenuse (a b : Double) : Double :=
  if a.isInfinite || b.isInfinite then infinity
  else if a.isNaN || b.isNaN then nan
  else
    let q := min a.exponent b.exponent
    let x := a.mantissa <<< (a.exponent - q).toNat
    let y := b.mantissa <<< (b.exponent - q).toNat
    let square := (x * x + y * y) <<< 256
    let root := square.sqrt
    ofBinary (2 * root + if root * root = square then 0 else 1) (q - 129)

end Double
end Loadable
