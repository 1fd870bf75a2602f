/-
# Visits of arguments

A walk that starts at the first argument stays within the arguments, however often the next one is asked
for (`within_nexts`).  So how many are left can be told after any number of calls.  The calls give what is
ahead of the walk, and then nothing (`nexts_eq`), and collecting gives all that is ahead (`collect_eq`).
-/

import Loadable.ArgumentIter

namespace Loadable
namespace ArgumentIter

variable {it : ArgumentIter}

/-- **No number of calls takes a walk past the end.** -/
theorem within_nexts (k : Nat) (h : it.Within) : (it.nexts k).2.Within := by
  induction k generalizing it with
  | zero => exact h
  | succ k ih => exact ih h.next

/-- **What any number of calls give:** what is ahead, up to that number, and nothing after the end.  The
walk has gone as far as it was asked to, or to the end. -/
theorem nexts_eq (k : Nat) (h : it.Within) :
    it.nexts k = ((it.ahead.take k).map some ++ List.replicate (k - it.ahead.length) none,
      ⟨it.arrays, min (it.position + k) it.arrays.count⟩) := by
  induction k generalizing it with
  | zero => simp [nexts, Nat.min_eq_left h]
  | succ k ih =>
    rw [nexts, ih h.next]
    rcases Nat.lt_or_ge it.position it.arrays.count with hlt | hle
    · have hposition : it.position + 1 + k = it.position + (k + 1) := by omega
      simp [next_of_lt hlt, ahead_of_lt hlt, hposition]
    · -- at the end the walk stays, so the calls that follow are those of the same walk
      have hposition : min (it.position + k) it.arrays.count
          = min (it.position + (k + 1)) it.arrays.count := by
        omega
      simp [next_of_le hle, ahead_of_le hle, hposition, List.replicate_succ]

/-- **Collecting a walk gives all that is ahead of it.** -/
theorem collect_eq (h : it.Within) : it.collect = .ok it.ahead := by
  fun_induction collect it with
  | case1 it rest hnext =>
    rw [ahead_of_le (next_eq_none hnext)]
    rfl
  | case2 it item rest hnext ih =>
    obtain ⟨hlt, rfl, rfl⟩ := next_eq_some hnext
    have hrest : (⟨it.arrays, it.position + 1⟩ : ArgumentIter).Within := hlt
    rw [sizeHint_eq hrest, ih hrest, ahead_of_lt hlt]
    rfl

theorem nexts_ofArrays (r : Arrays) (k : Nat) :
    (ofArrays r).nexts k = ((r.toList.zipIdx.take k).map some ++ List.replicate (k - r.count) none,
      ⟨r, min k r.count⟩) := by
  rw [nexts_eq k (within_ofArrays r), length_ahead]
  simp [ofArrays, ahead]

/-- **Every argument is visited once.**  Of any number of calls for the next argument, the first give the
arguments with their indices, one after the other, and those past the end give nothing.  After them it is
known how many are left, by a difference that is not refused.  What is collected are all arguments. -/
theorem arguments_are_visited_once (r : Arrays) (k : Nat) :
    ∃ walk, (ofArrays r).nexts k
        = ((r.toList.zipIdx.take k).map some ++ List.replicate (k - r.count) none, walk)
      ∧ walk.sizeHint = .ok (r.count - min k r.count, some (r.count - min k r.count))
      ∧ walk.length = .ok (r.count - min k r.count)
      ∧ r.collect = .ok r.toList.zipIdx := by
  have hwithin := within_nexts k (within_ofArrays r)
  rw [nexts_ofArrays] at hwithin
  exact ⟨_, nexts_ofArrays r k, sizeHint_eq hwithin, length_eq hwithin, collect_eq (within_ofArrays r)⟩

end ArgumentIter
end Loadable
