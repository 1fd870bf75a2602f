/-
# Numbers in memory

Numbers lie in memory with their least significant byte first.

* `toNat_ofNat`: eight bytes give a number below `2 ^ 64` back.
-/

import Loadable.Double
import Loadable.Text.Utf8

namespace Loadable
namespace LittleEndian

/-- The `w` low bytes of a number. -/
def ofNat : Nat → Nat → Bytes
  | 0, _ => []
  | w + 1, n => UInt8.ofNat n :: ofNat w (n / 256)

/-- The number that bytes stand for. -/
def toNat : Bytes → Nat
  | [] => 0
  | b :: bs => b.toNat + 256 * toNat bs

@[simp] theorem length_ofNat (w n : Nat) : (ofNat w n).length = w := by
  induction w generalizing n with
  | zero => rfl
  | succ w ih => simp [ofNat, ih]

theorem toNat_ofNat (w n : Nat) : toNat (ofNat w n) = n % Nat.pow 256 w := by
  induction w generalizing n with
  | zero => simp [ofNat, toNat, Nat.mod_one]
  | succ w ih =>
    rw [ofNat, toNat, ih, Nat.pow_eq, Nat.pow_eq, Nat.pow_succ', Nat.mod_mul, UInt8.toNat_ofNat']

end LittleEndian

/-- The eight bytes of an integer. -/
def intBytes (i : Int64) : Bytes := LittleEndian.ofNat 8 i.toUInt64.toNat

/-- The integer in eight bytes. -/
def intOfBytes (bs : Bytes) : Int64 := (UInt64.ofNat (LittleEndian.toNat bs)).toInt64

/-- The eight bytes of a real. -/
def Double.toBytes (d : Double) : Bytes := LittleEndian.ofNat 8 d.bits.toNat

/-- The real in eight bytes. -/
def Double.ofBytes (bs : Bytes) : Double := ⟨UInt64.ofNat (LittleEndian.toNat bs)⟩

theorem intOfBytes_intBytes (i : Int64) : intOfBytes (intBytes i) = i := by
  have h : i.toUInt64.toNat < 2 ^ 64 := i.toUInt64.toNat_lt
  unfold intOfBytes intBytes
  rw [LittleEndian.toNat_ofNat, Nat.mod_eq_of_lt (by simpa using h), UInt64.ofNat_toNat]
  rfl

theorem Double.ofBytes_toBytes (d : Double) : ofBytes d.toBytes = d := by
  have h : d.bits.toNat < 2 ^ 64 := d.bits.toNat_lt
  unfold ofBytes toBytes
  rw [LittleEndian.toNat_ofNat, Nat.mod_eq_of_lt (by simpa using h), UInt64.ofNat_toNat]

end Loadable
