/-
# The type an argument is said to have

A function's `init` can ask which type an argument will have.  It is told the type that it asked for itself,
the last one if there were several, or else the type of the value that lies there.  A flush leaves the
tag of the type that was asked for, or else the tag that was there.  The two agree unless the value
does not read as its tag says (`type_value`), and that happens in one case: the bytes of a decimal that
are no text are handed over as a string (`UnreadableDecimal`).  `told_types_hold` says so for any arrays and
any requests.
-/

import Loadable.Proofs.ArgumentArrays

namespace Loadable

namespace Argument

/-- A decimal with bytes that are not UTF-8. -/
def UnreadableDecimal (a : Argument) : Prop :=
  SqlType.ofNumber a.tag = .ok .decimal
    ∧ ∃ memory, a.memory = some memory ∧ Utf8.decode? (memory.take a.length) = none

/-- A value has the type of its tag, NULL or not, unless its bytes do not read as that. -/
theorem type_value {a : Argument} {type : SqlType} (h : SqlType.ofNumber a.tag = .ok type)
    (hread : ¬ a.UnreadableDecimal) : a.value.type = type := by
  rw [value, h]
  cases hmem : a.memory with
  | none => exact Value.type_null type
  | some memory =>
    cases type with
    | string => rfl
    | real => rfl
    | int => rfl
    | decimal =>
      cases htext : Utf8.decode? (memory.take a.length) with
      | none => exact absurd ⟨h, memory, hmem, htext⟩ hread
      | some s => simp [valueAt, htext, Value.type]

/-- Bytes that are no text are a string, whatever the tag says. -/
theorem value_of_unreadable {a : Argument} (h : a.UnreadableDecimal) :
    a.value.type = .string := by
  obtain ⟨htag, memory, hmem, htext⟩ := h
  rw [value, htag, hmem]
  simp [valueAt, htext, Value.type]

/-- **A value reads as its tag says** exactly if it is not a decimal with such bytes. -/
theorem type_value_iff {a : Argument} {type : SqlType} (h : SqlType.ofNumber a.tag = .ok type) :
    a.value.type = type ↔ ¬ a.UnreadableDecimal := by
  refine ⟨fun htype hbad => ?_, type_value h⟩
  have hdecimal : type = .decimal := Except.ok.inj (h.symm.trans hbad.1)
  rw [value_of_unreadable hbad, hdecimal] at htype
  cases htype

/-- A new tag is read as its type, and without one the old tag is. -/
theorem ofNumber_retagged (a : Argument) {own : SqlType} (h : SqlType.ofNumber a.tag = .ok own)
    (type : Option SqlType) : SqlType.ofNumber (a.retagged type).tag = .ok (type.getD own) := by
  cases type with
  | none => exact h
  | some t => exact SqlType.ofNumber_number t

end Argument

namespace InitView

/-- **The types told are those left,** for all arrays whose tags are those of types, whatever lies behind
them, and for all requests.  Until the flush nothing in the arrays changes, so values read as before the
requests.  The flush leaves in each tag the type asked for last, where one was, and otherwise what was
there; a second one writes nothing.  What was told is the type of that tag, except for a decimal that does
not read as one and for which nothing was asked: that is said to be a string, which is what it reads
as, before the flush and after it. -/
theorem told_types_hold (r : Arrays) (hr : ∀ a ∈ r.toList, a.Typed)
    (asked : List (Nat × SqlType)) :
    let v := (ofArrays r).askAll asked
    let w := v.flush
    v.arrays = r ∧ w.writes = [] ∧ w.flush = w ∧ w.arrays.count = r.count
      ∧ ∀ (i : Nat) (a : Argument), r.get? i = some a →
        let last := lastAt? asked i
        let left := a.retagged last
        w.arrays.get? i = some left
          ∧ ∃ type told, SqlType.ofNumber left.tag = .ok type ∧ v.typeOf? i = some told
            ∧ (∀ t, last = some t → type = t ∧ told = t)
            ∧ (told = type ↔ ¬ (last = none ∧ a.UnreadableDecimal))
            ∧ (last = none → a.UnreadableDecimal →
              type = .decimal ∧ told = .string ∧ left.value.type = .string) := by
  intro v w
  have hv : v.arrays = r := arrays_askAll ..
  refine ⟨hv, writes_flush v, flush_flush v, by rw [count_flush, hv], ?_⟩
  intro i a ha last left
  obtain ⟨hi, -⟩ := (r.get?_eq_some_iff).1 ha
  have hwaits : v.pending[i]?.join = last := pending_ofArrays r asked hi
  have hleft : w.arrays.get? i = some left := by
    rw [get?_flush, hv, ha, hwaits]
    rfl
  have htold : v.typeOf? i = some (last.getD a.value.type) := by
    rw [typeOf?, hv, ha, Option.map_some, Wishes.typeOf, hwaits]
  obtain ⟨own, hown⟩ := hr a (List.mem_iff_getElem?.2 ⟨i, by rw [Arrays.getElem?_toList, ha]⟩)
  have htag : SqlType.ofNumber a.tag = .ok own := SqlType.ofNumber_eq_ok_iff.2 hown
  refine ⟨hleft, last.getD own, last.getD a.value.type, ?_, htold, ?_⟩
  · exact a.ofNumber_retagged htag last
  · cases hlast : last with
    | some t => exact ⟨by simp, by simp, nofun⟩
    | none =>
      have hsame : left = a := by rw [show left = a.retagged last from rfl, hlast, a.retagged_none]
      refine ⟨nofun, ?_, fun _ hbad => ?_⟩
      · rw [Option.getD_none, Option.getD_none, and_iff_right rfl]
        exact Argument.type_value_iff htag
      · have hdecimal : own = .decimal := Except.ok.inj (htag.symm.trans hbad.1)
        rw [hsame]
        exact ⟨hdecimal, Argument.value_of_unreadable hbad, Argument.value_of_unreadable hbad⟩

/-- A decimal that does not read as one, an integer that is NULL, and a text for which two types are asked. -/
theorem told_types_hold_threeTags :
    let broken : Argument := ⟨4, some [0xff], 1, 0, none, 0⟩
    let number : Argument := ⟨2, none, 0, 1, none, 0⟩
    let text : Argument := ⟨0, some [55], 1, 0, none, 0⟩
    let r := Arrays.ofList [broken, number, text]
    let v := (ofArrays r).askAll [(2, .real), (2, .int)]
    (∀ a ∈ r.toList, a.Typed) ∧ v.arrays = r ∧ v.flush.flush = v.flush
      ∧ v.flush.arrays.get? 2 = some { text with tag := 2 }
      ∧ v.typeOf? 0 = some .string ∧ v.typeOf? 1 = some .int ∧ v.typeOf? 2 = some .int := by
  intro broken number text r v
  have hr : ∀ a ∈ r.toList, a.Typed := by
    rw [Arrays.toList_ofList]
    simp only [List.forall_mem_cons]
    exact ⟨⟨.decimal, rfl⟩, ⟨.int, rfl⟩, ⟨.string, rfl⟩, nofun⟩
  obtain ⟨hv, -, hflush, -, hargs⟩ := told_types_hold r hr [(2, .real), (2, .int)]
  have hbroken : broken.UnreadableDecimal := ⟨rfl, [0xff], rfl, by decide +kernel⟩
  have hnumber : ¬ number.UnreadableDecimal := fun h => by cases h.1
  obtain ⟨-, type₀, told₀, -, htold₀, -, -, hexcept⟩ := hargs 0 broken rfl
  obtain ⟨-, type₁, told₁, htype₁, htold₁, -, hagree, -⟩ := hargs 1 number rfl
  obtain ⟨hleft, type₂, told₂, -, htold₂, hlast, -⟩ := hargs 2 text rfl
  refine ⟨hr, hv, hflush, hleft, ?_, ?_, ?_⟩
  · rw [htold₀, (hexcept rfl hbroken).2.1]
  · rw [htold₁, hagree.2 fun h => hnumber h.2]
    exact congrArg some (Except.ok.inj htype₁).symm
  · rw [htold₂, (hlast .int rfl).2]

/-- The types told and left differ where the byte `ff` is sent as a decimal and nothing is asked for. -/
theorem told_string_left_decimal :
    let v := ofArrays (.ofList [⟨SqlType.decimal.toTag.number, some [0xff], 1, 0, none, 0⟩])
    (∀ a ∈ v.arrays.toList, a.Typed)
      ∧ v.typeOf? 0 = some .string ∧ v.flush.arrays.types = [.decimal] := by
  refine ⟨?_, by decide +kernel, by decide +kernel⟩
  rintro a (_ | ⟨_, ⟨⟩⟩)
  exact ⟨.decimal, rfl⟩

end InitView
end Loadable
