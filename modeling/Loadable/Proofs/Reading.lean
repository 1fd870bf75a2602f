/-
# Reading what was laid out

A value given by hand is laid out in memory by `Sample.place`, and a function reads it there as an
`Argument`.  It reads what was laid out (`value_place`), with the text and the mark for NULL that go
with it.  A value cast to a type has that type, and is NULL exactly where it was (`type_convert`,
`isNull_convert`).  Hence `readsAs_place`: a row cast to types reads back as just that, at every
place.
-/

import Loadable.Datum
import Loadable.Proofs.Utf8RoundTrip

namespace Loadable

namespace Datum

/-- What a function reads of a value. -/
def toValue : Datum → Value
  | string v => .string (v.map Utf8.encode)
  | bytes v => .string v
  | real v => .real v
  | int v => .int v
  | decimal v => .decimal v

@[simp] theorem type_toValue (d : Datum) : d.toValue.type = d.type := by cases d <;> rfl

@[simp] theorem isNull_toValue (d : Datum) : d.toValue.isNull = d.isNull := by
  cases d with
  | string v => exact Option.isNone_map ..
  | bytes v => rfl
  | real v => rfl
  | int v => rfl
  | decimal v => rfl

theorem type_convertText (s : Option String) (type : SqlType) :
    (convertText s type).type = type := by cases type <;> rfl

theorem isNull_convertText (s : Option String) (type : SqlType) :
    (convertText s type).isNull = s.isNone := by cases type <;> simp [convertText, isNull]

/-- A cast gives the type that was asked for. -/
@[simp] theorem type_convert (d : Datum) (type : SqlType) : (d.convert type).type = type := by
  cases d with
  | string v => exact type_convertText v type
  | bytes v =>
    cases type with
    | string => rfl
    | real => rfl
    | int => rfl
    | decimal => rfl
  | real v => cases type <;> rfl
  | int v => cases type <;> rfl
  | decimal v => exact type_convertText v type

/-- A cast makes no NULL and loses none. -/
@[simp] theorem isNull_convert (d : Datum) (type : SqlType) :
    (d.convert type).isNull = d.isNull := by
  cases d with
  | string v => exact isNull_convertText v type
  | bytes v =>
    cases type with
    | string => rfl
    | real => exact (isNull_convertText (v.map Utf8.lossy) .real).trans (Option.isNone_map ..)
    | int => exact (isNull_convertText (v.map Utf8.lossy) .int).trans (Option.isNone_map ..)
    | decimal => exact (isNull_convertText (v.map Utf8.lossy) .decimal).trans (Option.isNone_map ..)
  | real v => cases type <;> simp [convert, isNull]
  | int v => cases type <;> simp [convert, isNull]
  | decimal v => exact isNull_convertText v type

/-- A real is read of a real that is not NULL, and of nothing else. -/
theorem isSome_toReal? (d : Datum) :
    d.toValue.toReal?.isSome = (decide (d.type = .real) && !d.isNull) := by
  cases d with
  | real v => cases v <;> rfl
  | _ => rfl

/-- An integer is read of an integer that is not NULL, and of nothing else. -/
theorem isSome_toInt? (d : Datum) :
    d.toValue.toInt?.isSome = (decide (d.type = .int) && !d.isNull) := by
  cases d with
  | int v => cases v <;> rfl
  | _ => rfl

end Datum

namespace Sample

/-- **What was laid out is read.** -/
theorem value_place (item : Sample) : item.place.value = item.value.toValue := by
  have htype : SqlType.ofNumber item.place.tag = .ok item.value.type :=
    SqlType.ofNumber_number item.value.type
  rw [Argument.value, htype]
  dsimp only [place]
  cases item.value with
  | string v =>
    cases v with
    | none => rfl
    | some s => simp [Datum.memory, Datum.length, Datum.type, Datum.toValue, Argument.valueAt]
  | bytes v =>
    cases v with
    | none => rfl
    | some bs => simp [Datum.memory, Datum.length, Datum.type, Datum.toValue, Argument.valueAt]
  | real v =>
    cases v with
    | none => rfl
    | some d =>
      have hlen : d.toBytes.length ≤ 8 := by simp [Double.toBytes]
      simp [Datum.memory, Datum.type, Datum.toValue, Argument.valueAt,
        List.take_of_length_le hlen, Double.ofBytes_toBytes]
  | int v =>
    cases v with
    | none => rfl
    | some i =>
      have hlen : (intBytes i).length ≤ 8 := by simp [intBytes]
      simp [Datum.memory, Datum.type, Datum.toValue, Argument.valueAt,
        List.take_of_length_le hlen, intOfBytes_intBytes]
  | decimal v =>
    cases v with
    | none => rfl
    | some s => simp [Datum.memory, Datum.length, Datum.type, Datum.toValue, Argument.valueAt]

theorem writtenAs_place (item : Sample) : item.place.writtenAs = item.writtenAs := by
  rw [place, Argument.writtenAs]
  dsimp only
  rw [List.take_length, Utf8.decode?_encode, Option.getD_some]

theorem maybeNull_place (item : Sample) : item.place.maybeNull = item.maybeNull := by
  obtain ⟨value, writtenAs, maybeNull⟩ := item
  cases maybeNull <;> rfl

end Sample

/-- How an argument reads that was made of a value for a row. -/
structure ReadsAs (a : Argument) (item : Sample) (type : SqlType) (value : Datum) : Prop where
  reads : a.value = (value.convert type).toValue
  typed : a.value.type = type
  null : a.value.isNull = value.isNull
  writtenAs : a.writtenAs = item.writtenAs
  maybeNull : a.maybeNull = item.maybeNull

/-- **A cast value reads as that.** -/
theorem readsAs_place (item : Sample) (type : SqlType) (value : Datum) :
    ReadsAs { item with value := value.convert type }.place item type value where
  reads := Sample.value_place _
  typed := by rw [Sample.value_place, Datum.type_toValue, Datum.type_convert]
  null := by rw [Sample.value_place, Datum.isNull_toValue, Datum.isNull_convert]
  writtenAs := Sample.writtenAs_place _
  maybeNull := Sample.maybeNull_place _

end Loadable
