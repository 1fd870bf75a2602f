/-
# Arguments that are edited

Arguments given by hand are added to, replaced and viewed in any order, and the arrays are made anew by
everything but a replacement.  What there is to be seen follows from the history alone.  A view shows the
arguments that are there (`views_show_arguments`), each by its value, its text and its mark.  The types
seen last are those of the arguments that were there when the arrays were made last, with the conversions
granted in that very view (`types_since_last_layout`): the uses since then, from the end of the history
back, are all replacements.
-/

import Loadable.Proofs.ArgumentArrays
import Mathlib.Data.List.DropRight

namespace Loadable

namespace Arrays

/-- What a reader finds in arrays of arguments. -/
structure Shows (r : Arrays) (items : List Sample) : Prop where
  count : r.count = items.length
  /-- Each argument reads as its value, whose NULL is that of its type and nothing else is. -/
  value : ∀ (i : Nat) (item : Sample), items[i]? = some item → ∃ a, r.get? i = some a
    ∧ a.value = item.value.toValue
    ∧ (a.value = Value.null item.value.type ↔ item.value.isNull = true)
    ∧ a.writtenAs = item.writtenAs ∧ a.maybeNull = item.maybeNull
  past : ∀ i, items.length ≤ i → r.get? i = none

end Arrays

/-- A value is the NULL of its type exactly if it is NULL. -/
theorem Datum.toValue_eq_null_iff (d : Datum) :
    d.toValue = Value.null d.type ↔ d.isNull = true := by
  cases d with
  | string v => cases v <;> simp [toValue, Value.null, type, isNull]
  | bytes v => cases v <;> simp [toValue, Value.null, type, isNull]
  | real v => cases v <;> simp [toValue, Value.null, type, isNull]
  | int v => cases v <;> simp [toValue, Value.null, type, isNull]
  | decimal v => cases v <;> simp [toValue, Value.null, type, isNull]

/-- **Arguments that were laid out** are shown. -/
theorem Arrays.shows_ofList (items : List Sample) :
    (ofList (items.map Sample.place)).Shows items where
  count := by rw [← length_toList, toList_ofList, List.length_map]
  value i item hitem := by
    refine ⟨item.place, ?_, item.value_place, ?_, item.writtenAs_place, item.maybeNull_place⟩
    · rw [← getElem?_toList, toList_ofList, List.getElem?_map, hitem, Option.map_some]
    · rw [item.value_place, Datum.toValue_eq_null_iff]
  past i hi := by
    rw [← getElem?_toList, toList_ofList, List.getElem?_eq_none (by rwa [List.length_map])]

namespace Samples

namespace Edit

/-- The arguments that are there after a use. -/
def listed (items : List Sample) : Edit → List Sample
  | push item => items ++ [item]
  | replace index item => items.set index item
  | prepare _ _ => items
  | read => items

/-- Whether a use only replaces an argument. -/
def isReplacement : Edit → Bool
  | replace _ _ => true
  | _ => false

/-- The conversions that a use grants: those asked for in a view that is flushed. -/
def granted : Edit → List (Nat × SqlType)
  | prepare asked true => asked
  | _ => []

end Edit

/-- The types of arguments to which conversions were granted. -/
def typesGranted (items : List Sample) (granted : List (Nat × SqlType)) : List SqlType :=
  items.mapIdx fun i item => (lastAt? granted i).getD item.value.type

@[simp] theorem typesGranted_nil (items : List Sample) : typesGranted items [] = ownTypes items :=
  List.ext_getElem (by simp [typesGranted, ownTypes]) fun i _ _ => by simp [typesGranted, ownTypes]

theorem typesOf_place (items : List Sample) :
    typesOf (items.map Sample.place) = ownTypes items := by
  induction items with
  | nil => rfl
  | cons item items ih =>
    have hown : SqlType.ofNumber item.place.tag = .ok item.value.type :=
      SqlType.ofNumber_number item.value.type
    rw [List.map_cons, typesOf_cons hown, ih]
    rfl

/-- Arguments that were laid out show the types of their values. -/
theorem types_ofList (items : List Sample) : (ofList items).types = ownTypes items := by
  rw [types, Arrays.types_eq, ofList, Arrays.toList_ofList, typesOf_place]

/-- Arguments that were granted conversions show the types asked for last. -/
theorem types_flush (items : List Sample) (asked : List (Nat × SqlType)) :
    ((ofList items).initView.askAll asked).flush.arrays.types = typesGranted items asked := by
  have hargs : (ofList items).initView.arrays.toList = items.map Sample.place :=
    Arrays.toList_ofList _
  have hcount : (ofList items).view.count = items.length := (Arrays.shows_ofList items).count
  rw [Arrays.types_eq, InitView.toList_flush, InitView.arrays_askAll, hargs, typesOf_grant,
    typesGranted]
  refine List.ext_getElem (by simp) fun i hi _ => ?_
  have hlen : i < (ofList items).view.count := by simpa [hcount] using hi
  have hwaits := InitView.pending_ofArrays (ofList items).view asked hlen
  rw [List.getElem_mapIdx, List.getElem_mapIdx, ← hwaits]
  rfl

/-! ### One use -/

variable (s : Samples)

theorem items_edit (e : Edit) : (s.edit e).items = e.listed s.items := by
  cases e <;> rfl

/-- **What one use does to the types seen.** -/
theorem types_edit (e : Edit) :
    (s.edit e).types
      = if e.isReplacement then s.types else typesGranted (e.listed s.items) e.granted := by
  cases e with
  | push item => exact (types_ofList _).trans (typesGranted_nil _).symm
  | replace index item => rfl
  | prepare asked flushed =>
    cases flushed with
    | true => exact types_flush s.items asked
    | false =>
      have harrays : (s.edit (.prepare asked false)).arrays = s.view := InitView.arrays_askAll ..
      rw [types, harrays]
      exact (types_ofList s.items).trans (typesGranted_nil _).symm
  | read => exact (types_ofList _).trans (typesGranted_nil _).symm

/-! ### Histories -/

theorem editAll_snoc (edits : List Edit) (e : Edit) :
    s.editAll (edits ++ [e]) = (s.editAll edits).edit e := by
  rw [editAll, List.foldl_append]
  rfl

theorem items_editAll (edits : List Edit) :
    (s.editAll edits).items = edits.foldl Edit.listed s.items := by
  induction edits using List.reverseRecOn with
  | nil => rfl
  | append_singleton edits e ih => rw [editAll_snoc, items_edit, ih, List.foldl_append]; rfl

/-- **The types seen after a history** come from its part up to the last use that is no replacement. -/
theorem types_editAll (items : List Sample) (edits : List Edit) :
    ((ofList items).editAll edits).types
      = typesGranted ((edits.rdropWhile Edit.isReplacement).foldl Edit.listed items)
        ((edits.rdropWhile Edit.isReplacement).getLast?.elim [] Edit.granted) := by
  induction edits using List.reverseRecOn with
  | nil => exact (types_ofList items).trans (typesGranted_nil items).symm
  | append_singleton edits e ih =>
    rw [editAll_snoc, types_edit]
    by_cases h : e.isReplacement = true
    · rw [if_pos h, List.rdropWhile_concat_pos _ _ _ h, ih]
    · rw [if_neg h, List.rdropWhile_concat_neg _ _ _ h, items_editAll, List.foldl_append,
        List.getLast?_concat]
      rfl

/-- **Views show the arguments** that are there, after every history: for a row, and for `init` whatever
conversions are asked for in the view. -/
theorem views_show_arguments (items : List Sample) (edits : List Edit) :
    let s := (ofList items).editAll edits
    let present := edits.foldl Edit.listed items
    s.view.Shows present ∧ ∀ asked, (s.initView.askAll asked).arrays.Shows present := by
  intro s present
  have hitems : s.items = present := (ofList items).items_editAll edits
  have hview : s.view.Shows present := hitems ▸ Arrays.shows_ofList s.items
  refine ⟨hview, fun asked => ?_⟩
  rw [InitView.arrays_askAll]
  exact hview

/-- **The types seen are those since the last layout.**  After every history there is one type for each
argument that was there when the arrays were made last, in the last use that was no
replacement or at the start; it is the type asked for last in that use, if that was a view for `init` that was
flushed, and else that of the value the argument had then.  So a replacement changes no type, what was not granted
never shows, and what was granted is gone with the next view or argument. -/
theorem types_since_last_layout (items : List Sample) (edits : List Edit) :
    let s := (ofList items).editAll edits
    let past := edits.rdropWhile Edit.isReplacement
    let there := past.foldl Edit.listed items
    let present := edits.foldl Edit.listed items
    s.types.length = there.length
      ∧ s.types = (there.mapIdx fun i item =>
        (lastAt? (past.getLast?.elim [] Edit.granted) i).getD item.value.type)
      ∧ (∀ index item, (s.edit (.replace index item)).types = s.types)
      ∧ (∀ asked, (s.edit (.prepare asked false)).types = ownTypes present)
      ∧ (s.edit .read).types = ownTypes present
      ∧ ∀ item, (s.edit (.push item)).types = ownTypes (present ++ [item]) := by
  intro s past there present
  have htypes : s.types = typesGranted there (past.getLast?.elim [] Edit.granted) :=
    types_editAll items edits
  have hitems : s.items = present := (ofList items).items_editAll edits
  refine ⟨?_, htypes, fun index item => rfl, fun asked => ?_, ?_, fun item => ?_⟩
  · rw [htypes, typesGranted, List.length_mapIdx]
  · exact (s.types_edit _).trans (hitems ▸ typesGranted_nil s.items)
  · exact (s.types_edit _).trans (hitems ▸ typesGranted_nil s.items)
  · exact (s.types_edit _).trans (hitems ▸ typesGranted_nil (s.items ++ [item]))

/-- A text that was granted to be an integer is one until the next view, also behind a replacement by a real. -/
example :
    let s := (ofList [⟨.string none, "a", true⟩]).edit (.prepare [(0, .real), (0, .int)] true)
    let t := s.edit (.replace 0 ⟨.real none, "b", true⟩)
    s.types = [.int] ∧ t.types = [.int] ∧ (t.edit .read).types = [.real] := by
  decide

end Samples
end Loadable
