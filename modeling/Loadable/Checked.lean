/-
# Checked arithmetic

Sums and differences of 64-bit integers, and counts, that are refused, not wrapped, where 64 bits do
not hold them: this is the arithmetic of a build with overflow checks, in which what is refused ends in a
panic.  So are reads of a list at an index past its end, in every build.

* `toInt_add?`, `toInt_sub?`: what is not refused is exact;
* `add?_eq_some_iff`, `add?_eq_none_iff`: what is refused would not fit;
* `toNat_succ?`, `toNat_pred?`: a count that is not refused is the next, or the one before;
* `diff_eq_error_iff`: a difference of counts is refused below zero.
-/

import Loadable.Routine

namespace Loadable
namespace Checked

/-- Whether 64 bits hold an integer. -/
abbrev Fits (n : Int) : Prop := leastInt ≤ n ∧ n ≤ greatestInt

/-- 64 bits hold what they have. -/
theorem fits_toInt (i : Int64) : Fits i.toInt := ⟨i.le_toInt, Int.le_of_lt_add_one i.toInt_lt⟩

/-- What 64 bits hold is the value of an integer. -/
theorem exists_toInt {n : Int} (h : Fits n) : ∃ i : Int64, i.toInt = n :=
  ⟨Int64.ofInt n, Int64.toInt_ofInt_of_le h.1 (Int.lt_add_one_of_le h.2)⟩

/-- A sum can only be too great for two of one sign: else it lies between the two. -/
theorem signs_of_not_fits {m n : Int} (hm : Fits m) (hn : Fits n) (h : ¬ Fits (m + n)) :
    0 < m ∧ 0 < n ∨ m < 0 ∧ n < 0 := by
  obtain ⟨hleast, hgreatest⟩ := hm
  obtain ⟨hleast', hgreatest'⟩ := hn
  exact Decidable.byContradiction fun hsigns => h ⟨by omega, by omega⟩

/-- The 64-bit integer of the same value. -/
def ofInt? (n : Int) : Option Int64 := if Fits n then some (Int64.ofInt n) else none

theorem toInt_ofInt? {n : Int} {i : Int64} (h : ofInt? n = some i) : i.toInt = n := by
  unfold ofInt? at h
  split at h
  case isTrue hn =>
    obtain rfl := Option.some.inj h
    exact Int64.toInt_ofInt_of_le hn.1 (Int.lt_add_one_of_le hn.2)
  case isFalse => cases h

def add? (a b : Int64) : Option Int64 := ofInt? (a.toInt + b.toInt)

def sub? (a b : Int64) : Option Int64 := ofInt? (a.toInt - b.toInt)

theorem toInt_add? {a b c : Int64} (h : add? a b = some c) : c.toInt = a.toInt + b.toInt :=
  toInt_ofInt? h

theorem toInt_sub? {a b c : Int64} (h : sub? a b = some c) : c.toInt = a.toInt - b.toInt :=
  toInt_ofInt? h

theorem ofInt?_eq_none_iff {n : Int} : ofInt? n = none ↔ ¬ Fits n := by
  unfold ofInt?
  split
  case isTrue hn => exact iff_of_false nofun (not_not_intro hn)
  case isFalse hn => exact iff_of_true rfl hn

/-- A sum is refused exactly if 64 bits do not hold it. -/
theorem add?_eq_none_iff {a b : Int64} : add? a b = none ↔ ¬ Fits (a.toInt + b.toInt) :=
  ofInt?_eq_none_iff

/-- A sum that is not refused is the integer of its value. -/
theorem add?_eq_some_iff {a b c : Int64} : add? a b = some c ↔ c.toInt = a.toInt + b.toInt := by
  refine ⟨toInt_add?, fun h => ?_⟩
  have hfits : Fits (a.toInt + b.toInt) := h ▸ fits_toInt c
  rw [add?, ofInt?, if_pos hfits, ← h, Int64.ofInt_toInt]

/-- A sum that 64 bits hold is not refused. -/
theorem exists_add? {a b : Int64} (h : Fits (a.toInt + b.toInt)) :
    ∃ c, add? a b = some c ∧ c.toInt = a.toInt + b.toInt := by
  obtain ⟨c, hc⟩ := exists_toInt h
  exact ⟨c, add?_eq_some_iff.2 hc, hc⟩

/-- The sum of a list, from the left; refused as soon as a partial sum is. -/
def sum? (is : List Int64) : Option Int64 := is.foldlM add? 0

/-- The next count. -/
def succ? (n : UInt64) : Option UInt64 :=
  if n.toNat + 1 < UInt64.size then some (n + 1) else none

/-- The count before. -/
def pred? (n : UInt64) : Option UInt64 := if n = 0 then none else some (n - 1)

theorem toNat_succ? {m n : UInt64} (h : succ? m = some n) : n.toNat = m.toNat + 1 := by
  unfold succ? at h
  split at h
  case isTrue hm =>
    obtain rfl := Option.some.inj h
    exact Nat.mod_eq_of_lt hm
  case isFalse => cases h

theorem toNat_pred? {m n : UInt64} (h : pred? m = some n) : n.toNat + 1 = m.toNat := by
  unfold pred? at h
  split at h
  case isTrue => cases h
  case isFalse hm =>
    obtain rfl := Option.some.inj h
    have hpos : m.toNat ≠ 0 := fun hzero => hm (UInt64.toNat_inj.1 hzero)
    have hle : (1 : UInt64) ≤ m := Nat.one_le_iff_ne_zero.2 hpos
    rw [UInt64.toNat_sub_of_le m 1 hle]
    exact Nat.sub_add_cancel (Nat.one_le_iff_ne_zero.2 hpos)

/-- Only the greatest count has no next. -/
theorem succ?_eq_none_iff {n : UInt64} : succ? n = none ↔ n.toNat + 1 = UInt64.size := by
  have hlt : n.toNat < UInt64.size := n.toNat_lt_size
  rw [succ?, ite_eq_right_iff]
  refine ⟨fun h => ?_, fun h hn => absurd h (Nat.ne_of_lt hn)⟩
  exact Decidable.byContradiction fun hne => nomatch h (by omega)

/-- Only zero has no count before. -/
theorem pred?_eq_none_iff {n : UInt64} : pred? n = none ↔ n = 0 := by
  rw [pred?, ite_eq_left_iff]
  refine ⟨fun h => ?_, fun h hn => absurd h hn⟩
  exact Decidable.byContradiction fun hne => nomatch h hne

/-- The panic of a sum that is refused. -/
def addOverflow : Panic := .text "attempt to add with overflow"

/-- The panic of a difference that is refused. -/
def subOverflow : Panic := .text "attempt to subtract with overflow"

/-- A result that is refused ends in a panic. -/
def orPanic {ε α : Type} (p : Panic) : Option α → Outcome ε α
  | some a => .ok a
  | none => .panic p

/-- The difference of two counts, which is not below zero. -/
def diff (m n : Nat) : Except Panic Nat := if n ≤ m then .ok (m - n) else .error subOverflow

theorem diff_eq {m n : Nat} (h : n ≤ m) : diff m n = .ok (m - n) := if_pos h

/-- A difference is refused exactly below zero. -/
theorem diff_eq_error_iff {m n : Nat} : diff m n = .error subOverflow ↔ m < n := by
  unfold diff
  split
  case isTrue h => exact iff_of_false nofun (by omega)
  case isFalse h => exact iff_of_true rfl (by omega)

/-- The panic of a read past the end. -/
def outOfRange (length index : Nat) : Panic :=
  .text ("index out of bounds: the len is " ++ toString length ++ " but the index is "
    ++ toString index)

/-- The element of a list at an index, which is not past the end. -/
def read {α : Type} (l : List α) (i : Nat) : Except Panic α :=
  if h : i < l.length then .ok l[i] else .error (outOfRange l.length i)

theorem read_eq {α : Type} {l : List α} {i : Nat} (h : i < l.length) : read l i = .ok l[i] :=
  dif_pos h

/-- The panic of two values that should be the same, as they are shown. -/
def notSame (left right : String) : Panic :=
  .text ("assertion `left == right` failed\n  left: " ++ left ++ "\n right: " ++ right)

end Checked
end Loadable
