/-
# Walks along arguments

The arguments of a call are visited one after the other by a walk, which holds the arrays and the index
of the next argument.  At the end it stays where it is and gives nothing more.  How many arguments are
left is the count less the index, a difference that is refused if the index has passed the end.

* `Within.next`: a step does not take a walk past the end;
* `sizeHint_eq`, `length_eq`: within the arguments, how many are left is known at any time.
-/

import Loadable.Arrays
import Loadable.Checked

namespace Loadable

/-- A walk along arguments. -/
structure ArgumentIter where
  arrays : Arrays
  /-- The index of the next argument. -/
  position : Nat
  deriving DecidableEq, Repr

namespace ArgumentIter

/-- The walk along all arguments. -/
def ofArrays (r : Arrays) : ArgumentIter := ⟨r, 0⟩

/-- The next argument with its index, and the walk past it.  At the end the walk stays. -/
def next (it : ArgumentIter) : Option (Argument × Nat) × ArgumentIter :=
  match it.arrays.get? it.position with
  | none => (none, it)
  | some a => (some (a, it.position), ⟨it.arrays, it.position + 1⟩)

/-- What `k` calls for the next argument give, and the walk after them. -/
def nexts : Nat → ArgumentIter → List (Option (Argument × Nat)) × ArgumentIter
  | 0, it => ([], it)
  | k + 1, it =>
    let (given, rest) := nexts k it.next.2
    (it.next.1 :: given, rest)

/-- How many arguments are left, at least and at most. -/
def sizeHint (it : ArgumentIter) : Except Panic (Nat × Option Nat) := do
  let left ← Checked.diff it.arrays.count it.position
  return (left, some left)

/-- How many arguments are left.  The two bounds must be the same. -/
def length (it : ArgumentIter) : Except Panic Nat := do
  let (low, high) ← it.sizeHint
  if high = some low then return low
  else throw (Checked.notSame (Value.optionText (high.map toString))
    (Value.optionText (some (toString low))))

/-- What a walk has before it. -/
def ahead (it : ArgumentIter) : List (Argument × Nat) := it.arrays.toList.zipIdx.drop it.position

/-- A walk that has not passed the end. -/
def Within (it : ArgumentIter) : Prop := it.position ≤ it.arrays.count

variable {it : ArgumentIter}

theorem next_of_lt (h : it.position < it.arrays.count) :
    it.next = (some (it.arrays.get it.position h, it.position), ⟨it.arrays, it.position + 1⟩) := by
  rw [next, (it.arrays.get?_eq_some_iff).2 ⟨h, rfl⟩]

theorem next_of_le (h : it.arrays.count ≤ it.position) : it.next = (none, it) := by
  rw [next, it.arrays.get?_eq_none h]

/-- An argument is given only before the end, the one at the walk's place, and the walk goes on behind it. -/
theorem next_eq_some {item : Argument × Nat} {rest : ArgumentIter} (h : it.next = (some item, rest)) :
    ∃ hlt : it.position < it.arrays.count,
      item = (it.arrays.get it.position hlt, it.position) ∧ rest = ⟨it.arrays, it.position + 1⟩ := by
  rcases Nat.lt_or_ge it.position it.arrays.count with hlt | hle
  · rw [next_of_lt hlt] at h
    cases h
    exact ⟨hlt, rfl, rfl⟩
  · rw [next_of_le hle] at h
    cases h

/-- Nothing is given only at the end. -/
theorem next_eq_none {rest : ArgumentIter} (h : it.next = (none, rest)) :
    it.arrays.count ≤ it.position := by
  refine Nat.le_of_not_lt fun hlt => ?_
  rw [next_of_lt hlt] at h
  cases h

/-- All that is left.  The hint is asked for with every argument, as is done to make room for the rest. -/
def collect (it : ArgumentIter) : Except Panic (List (Argument × Nat)) :=
  match _hnext : it.next with
  | (none, _) => return []
  | (some item, rest) => do
    discard rest.sizeHint
    return item :: (← rest.collect)
termination_by it.arrays.count - it.position
decreasing_by
  obtain ⟨hlt, -, rfl⟩ := next_eq_some _hnext
  exact Nat.sub_succ_lt_self _ _ hlt

theorem within_ofArrays (r : Arrays) : (ofArrays r).Within := Nat.zero_le _

/-- **No step takes a walk past the end.** -/
theorem Within.next (h : it.Within) : it.next.2.Within := by
  rcases Nat.lt_or_ge it.position it.arrays.count with hlt | hle
  · rw [next_of_lt hlt]
    exact hlt
  · rw [next_of_le hle]
    exact h

/-- Within the arguments the difference is not refused. -/
theorem sizeHint_eq (h : it.Within) :
    it.sizeHint = .ok (it.arrays.count - it.position, some (it.arrays.count - it.position)) := by
  rw [sizeHint, Checked.diff_eq h]
  rfl

/-- Only past the end is the difference refused. -/
theorem sizeHint_eq_error_iff : it.sizeHint = .error Checked.subOverflow ↔ ¬ it.Within := by
  constructor
  · intro h hwithin
    rw [sizeHint_eq hwithin] at h
    cases h
  · intro h
    rw [sizeHint, Checked.diff_eq_error_iff.2 (Nat.lt_of_not_le h)]
    rfl

theorem length_eq (h : it.Within) : it.length = .ok (it.arrays.count - it.position) := by
  rw [length, sizeHint_eq h]
  simp [bind, Except.bind, pure, Except.pure]

theorem length_ahead (it : ArgumentIter) : it.ahead.length = it.arrays.count - it.position := by
  simp [ahead]

/-- Before the end, what is before a walk is the next argument and what is before the walk then. -/
theorem ahead_of_lt (h : it.position < it.arrays.count) :
    it.ahead = (it.arrays.get it.position h, it.position)
      :: (⟨it.arrays, it.position + 1⟩ : ArgumentIter).ahead := by
  have hlt : it.position < it.arrays.toList.zipIdx.length := by simpa using h
  rw [ahead, List.drop_eq_getElem_cons hlt]
  simp [ahead, Arrays.toList]

theorem ahead_of_le (h : it.arrays.count ≤ it.position) : it.ahead = [] := by
  rw [ahead, List.drop_eq_nil_of_le (by simpa using h)]

end ArgumentIter

/-- All arguments, each with its index, as they are visited. -/
def Arrays.collect (r : Arrays) : Except Panic (List (Argument × Nat)) :=
  (ArgumentIter.ofArrays r).collect

end Loadable
