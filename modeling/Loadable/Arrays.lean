/-
# Arguments in arrays

The server hands a list of arguments over as a count and one array for each part of an argument: the
tags, the values, their lengths, the marks for NULL, the names and the lengths of these.  An argument
is read from all arrays at its index; past the count there is none.

`init` gets a view with a cell beside each argument.  The conversion asked for an argument waits there
until the view is flushed, which writes it into the array of the tags.

* `toList_ofList`: arguments that were laid out are read back.
-/

import Loadable.Argument

namespace Loadable

/-- A list of arguments as the server lays it out, with an entry for each in every array. -/
structure Arrays where
  /-- The server counts in 32 bits: lists of 2^32 arguments and more are left out. -/
  count : Nat
  tags : Vector Int count
  memory : Vector (Option Bytes) count
  lengths : Vector Nat count
  nullable : Vector UInt8 count
  names : Vector (Option Bytes) count
  nameLengths : Vector Nat count
  deriving DecidableEq, Repr

namespace Arrays

/-- No arguments. -/
def empty : Arrays := ⟨0, #v[], #v[], #v[], #v[], #v[], #v[]⟩

/-- One more argument, an entry at the end of every array. -/
def push (r : Arrays) (a : Argument) : Arrays where
  count := r.count + 1
  tags := r.tags.push a.tag
  memory := r.memory.push a.memory
  lengths := r.lengths.push a.length
  nullable := r.nullable.push a.nullable
  names := r.names.push a.name
  nameLengths := r.nameLengths.push a.nameLength

/-- Arguments laid out one after the other. -/
def ofList (args : List Argument) : Arrays := args.foldl push empty

/-- The argument at an index below the count. -/
def get (r : Arrays) (i : Nat) (h : i < r.count) : Argument where
  tag := r.tags[i]
  memory := r.memory[i]
  length := r.lengths[i]
  nullable := r.nullable[i]
  name := r.names[i]
  nameLength := r.nameLengths[i]

/-- The argument at an index. -/
def get? (r : Arrays) (i : Nat) : Option Argument :=
  if h : i < r.count then some (r.get i h) else none

/-- All arguments. -/
def toList (r : Arrays) : List Argument := List.ofFn fun i : Fin r.count => r.get i i.isLt

/-- The types in the array of the tags. -/
def types (r : Arrays) : List SqlType :=
  r.tags.toList.filterMap fun tag => (SqlType.ofNumber tag).toOption

/-- Write a type into the array of the tags. -/
def writeType (r : Arrays) (index : Nat) (type : SqlType) : Arrays :=
  { r with tags := r.tags.setIfInBounds index type.toTag.number }

/-- Write types one after the other. -/
def writeAll (r : Arrays) (writes : List (Nat × SqlType)) : Arrays :=
  writes.foldl (fun r write => r.writeType write.1 write.2) r

@[simp] theorem length_toList (r : Arrays) : r.toList.length = r.count := List.length_ofFn

@[simp] theorem getElem?_toList (r : Arrays) (i : Nat) : r.toList[i]? = r.get? i := by
  rw [toList, List.getElem?_ofFn, get?]

theorem get?_eq_some_iff (r : Arrays) {i : Nat} {a : Argument} :
    r.get? i = some a ↔ ∃ h : i < r.count, r.get i h = a := by
  unfold get?
  split
  case isTrue h => simp [h]
  case isFalse h => simp [h]

theorem get?_eq_none (r : Arrays) {i : Nat} (h : r.count ≤ i) : r.get? i = none := by
  rw [get?, dif_neg (by omega)]

/-- An entry that is pushed leaves those before it. -/
theorem get_push_of_lt (r : Arrays) (a : Argument) {i : Nat} (h : i < r.count) :
    (r.push a).get i (Nat.lt_succ_of_lt h) = r.get i h := by
  simp [get, push, Vector.getElem_push_lt h]

theorem get_push_last (r : Arrays) (a : Argument) :
    (r.push a).get r.count (Nat.lt_succ_self _) = a := by
  simp [get, push]

@[simp] theorem toList_push (r : Arrays) (a : Argument) :
    (r.push a).toList = r.toList ++ [a] := by
  refine List.ofFn_succ_last.trans ?_
  congr 1
  · exact congrArg List.ofFn (funext fun i => r.get_push_of_lt a i.isLt)
  · exact congrArg (fun b => [b]) (r.get_push_last a)

/-- **What was laid out is read back.** -/
@[simp] theorem toList_ofList (args : List Argument) : (ofList args).toList = args :=
  calc (ofList args).toList
    _ = args.foldl (fun read a => read ++ [a]) [] :=
      (List.foldl_hom toList fun r a => (r.toList_push a).symm).symm
    _ = (args.map fun a => [a]).flatten := List.foldl_append_eq_append
    _ = args := by rw [← List.flatMap_def, List.flatMap_singleton']

end Arrays

/-- What `init` is given of arguments: the arrays, and the conversions that wait to be written. -/
structure InitView where
  arrays : Arrays
  pending : Wishes
  deriving DecidableEq, Repr

namespace InitView

/-- A view in which nothing was asked for. -/
def ofArrays (r : Arrays) : InitView := ⟨r, Wishes.none r.count⟩

/-- Ask for the conversion of an argument. -/
def ask (v : InitView) (index : Nat) (type : SqlType) : InitView :=
  { v with pending := v.pending.ask index type }

/-- Ask for conversions one after the other. -/
def askAll (v : InitView) (asked : List (Nat × SqlType)) : InitView :=
  asked.foldl (fun v wish => v.ask wish.1 wish.2) v

/-- The type that an argument is said to be going to have. -/
def typeOf? (v : InitView) (i : Nat) : Option SqlType :=
  (v.arrays.get? i).map (v.pending.typeOf i)

/-- What a flush writes: at each place where a type waits, that type. -/
def writes (v : InitView) : List (Nat × SqlType) :=
  v.pending.zipIdx.filterMap fun (wish, i) => wish.map (i, ·)

/-- Write the types that wait into the array of the tags; none waits then. -/
def flush (v : InitView) : InitView :=
  ⟨v.arrays.writeAll v.writes, v.pending.map fun _ => none⟩

end InitView
end Loadable
