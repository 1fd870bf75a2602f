/-
# Writing into the arrays

A flush goes through the cells of a view and writes the types that wait there into the array of the
tags.  Where several types are written at one place the last counts (`get?_writeAll`), and a flush
writes at most one at each place, the one in its cell (`lastAt?_writes`).  So a flush does to the arrays
what granting the conversions does to a list of arguments (`toList_flush`), and a second one does nothing
(`flush_flush`).
-/

import Loadable.Proofs.Initialization

namespace Loadable

/-- The last of the values that are written at a place. -/
def lastAt? {α : Type} (writes : List (Nat × α)) (i : Nat) : Option α :=
  (writes.filterMap fun write => if write.1 = i then some write.2 else none).getLast?

@[simp] theorem lastAt?_nil {α : Type} (i : Nat) : lastAt? ([] : List (Nat × α)) i = none := rfl

theorem lastAt?_snoc {α : Type} (writes : List (Nat × α)) (j : Nat) (a : α) (i : Nat) :
    lastAt? (writes ++ [(j, a)]) i = if j = i then some a else lastAt? writes i := by
  rw [lastAt?, List.filterMap_append, List.getLast?_append, lastAt?]
  by_cases h : j = i <;> simp [h]

/-- A tag that was written twice is as if it was written once. -/
@[simp] theorem Argument.retagged_some (a : Argument) (before : Option SqlType) (type : SqlType) :
    (a.retagged before).retagged (some type) = a.retagged (some type) := rfl

namespace Arrays

variable (r : Arrays)

/-- Arrays with the same arguments show the same types. -/
theorem types_eq : r.types = Samples.typesOf r.toList := by
  have htags : r.tags.toList = r.toList.map Argument.tag :=
    List.ext_getElem (by simp) fun i h _ => by simp [toList, get]
  rw [types, htags, Samples.typesOf, List.filterMap_map]
  rfl

@[simp] theorem count_writeAll (writes : List (Nat × SqlType)) :
    (r.writeAll writes).count = r.count := by
  induction writes using List.reverseRecOn with
  | nil => rfl
  | append_singleton writes write ih =>
    rw [writeAll, List.foldl_append]
    exact ih

/-- One write changes the tag at its place, and nothing else. -/
theorem get?_writeType (j : Nat) (type : SqlType) (i : Nat) :
    (r.writeType j type).get? i
      = (r.get? i).map fun a => if j = i then a.retagged (some type) else a := by
  by_cases h : i < r.count
  · have hwritten : i < (r.writeType j type).count := h
    rw [get?, dif_pos hwritten, get?, dif_pos h, Option.map_some]
    by_cases hj : j = i <;> simp [get, writeType, hj, Argument.retagged]
  · have hcount : (r.writeType j type).count = r.count := rfl
    rw [get?_eq_none _ (by omega), get?_eq_none _ (by omega), Option.map_none]

/-- **Of the types written at a place the last counts.** -/
theorem get?_writeAll (writes : List (Nat × SqlType)) (i : Nat) :
    (r.writeAll writes).get? i = (r.get? i).map fun a => a.retagged (lastAt? writes i) := by
  induction writes using List.reverseRecOn with
  | nil => simp [writeAll]
  | append_singleton writes write ih =>
    obtain ⟨j, type⟩ := write
    have hstep : r.writeAll (writes ++ [(j, type)]) = (r.writeAll writes).writeType j type := by
      rw [writeAll, List.foldl_append]
      rfl
    rw [hstep, get?_writeType, ih, Option.map_map, lastAt?_snoc]
    congr 1
    funext a
    by_cases h : j = i <;> simp [h]

end Arrays

namespace InitView

variable (v : InitView)

/-- Asking touches no array. -/
@[simp] theorem arrays_askAll (asked : List (Nat × SqlType)) :
    (v.askAll asked).arrays = v.arrays := by
  induction asked using List.reverseRecOn with
  | nil => rfl
  | append_singleton asked wish ih =>
    rw [askAll, List.foldl_append]
    exact ih

theorem askAll_snoc (asked : List (Nat × SqlType)) (j : Nat) (type : SqlType) :
    v.askAll (asked ++ [(j, type)]) = (v.askAll asked).ask j type := by
  rw [askAll, List.foldl_append]
  rfl

/-- Asking in a view is asking in a preparation. -/
theorem pending_askAll_eq (asked : List (Nat × SqlType)) (settings : Settings) :
    (v.askAll asked).pending
      = ((⟨settings, v.pending⟩ : Preparation).makeAll
        (asked.map fun wish => .conversion wish.1 wish.2)).wishes := by
  induction asked using List.reverseRecOn with
  | nil => rfl
  | append_singleton asked wish ih =>
    rw [askAll_snoc, ask, ih, List.map_append, List.map_singleton, Preparation.makeAll_snoc]
    rfl

theorem lastFor?_conversions (asked : List (Nat × SqlType)) (i : Nat) :
    Request.lastFor? (asked.map fun wish => .conversion wish.1 wish.2) i = lastAt? asked i := by
  rw [Request.lastFor?, List.filterMap_map]
  rfl

/-- **The last type asked for an argument waits in its cell.** -/
theorem pending_askAll (asked : List (Nat × SqlType)) {i : Nat} (hi : i < v.pending.length) :
    (v.askAll asked).pending[i]?.join = (lastAt? asked i).or v.pending[i]?.join := by
  rw [v.pending_askAll_eq asked .empty, Preparation.wish_makeAll _ _ hi, lastFor?_conversions]

/-- In a view of arrays only what was asked for waits. -/
theorem pending_ofArrays (r : Arrays) (asked : List (Nat × SqlType)) {i : Nat}
    (hi : i < r.count) : ((ofArrays r).askAll asked).pending[i]?.join = lastAt? asked i := by
  have hlen : i < (ofArrays r).pending.length := by simpa [ofArrays, Wishes.none] using hi
  have hnone : (ofArrays r).pending[i]?.join = none := by simp [ofArrays, Wishes.none, hi]
  rw [pending_askAll _ asked hlen, hnone, Option.or_none]

/-! ### Flushing -/

/-- One more cell is found at its own place only. -/
theorem join_getElem?_snoc (cells : Wishes) (cell : Option SqlType) (i : Nat) :
    (cells ++ [cell])[i]?.join = if cells.length = i then cell else cells[i]?.join := by
  rcases Nat.lt_trichotomy i cells.length with h | h | h
  · rw [List.getElem?_append_left h, if_neg (by omega)]
  · simp [h]
  · rw [List.getElem?_eq_none (by simp; omega), List.getElem?_eq_none (by omega),
      if_neg (by omega)]

/-- What is written for cells is what waits in them. -/
theorem lastAt?_cells (cells : Wishes) (i : Nat) :
    lastAt? (cells.zipIdx.filterMap fun (wish, i) => wish.map (i, ·)) i = cells[i]?.join := by
  induction cells using List.reverseRecOn with
  | nil => rfl
  | append_singleton cells cell ih =>
    rw [List.zipIdx_append, List.filterMap_append, Nat.zero_add, join_getElem?_snoc, ← ih]
    cases cell with
    | none =>
      -- an empty cell adds no write, and its place is past those of the cells before
      have hpast : cells.length = i → cells[i]?.join = none := fun h => by simp [← h]
      rw [← ih] at hpast
      simpa using hpast
    | some type => exact lastAt?_snoc ..

/-- A flush writes at each place what waits there. -/
theorem lastAt?_writes (i : Nat) : lastAt? v.writes i = v.pending[i]?.join :=
  lastAt?_cells v.pending i

@[simp] theorem count_flush : v.flush.arrays.count = v.arrays.count := Arrays.count_writeAll ..

/-- **A flush** gives each tag the type that waits for it, and touches nothing else. -/
theorem get?_flush (i : Nat) :
    v.flush.arrays.get? i = (v.arrays.get? i).map fun a => a.retagged v.pending[i]?.join := by
  rw [flush, Arrays.get?_writeAll, lastAt?_writes]

/-- A flush does to the arrays what granting does to the arguments. -/
theorem toList_flush : v.flush.arrays.toList = v.pending.grant v.arrays.toList := by
  refine List.ext_getElem? fun i => ?_
  rw [Arrays.getElem?_toList, get?_flush, Wishes.getElem?_grant, Arrays.getElem?_toList]

/-- After a flush there is nothing to write. -/
@[simp] theorem writes_flush : v.flush.writes = [] := by
  rw [writes, List.filterMap_eq_nil_iff]
  rintro ⟨wish, i⟩ hmem
  obtain ⟨-, -, rfl⟩ := List.mem_map.1 (List.fst_mem_of_mem_zipIdx hmem)
  rfl

/-- **A second flush does nothing.** -/
theorem flush_flush : v.flush.flush = v.flush := by
  rw [flush, writes_flush]
  simp [flush, Arrays.writeAll]

end InitView
end Loadable
