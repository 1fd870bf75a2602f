/-
# All callbacks agree on the state

A function keeps its state behind a pointer, and every callback is told anew what stands there.  What the
callbacks of a registration work on is read off their handlers (`Handler.stateType`), and so is what they
give (`Handler.kind?`).  The callbacks of a function are slots of one shape, so they agree with each other;
the declaration of the function names the same state, and the callbacks for groups take theirs from it
(`Declaration.resolve`).  A number is given by a handler that is told its type as it is written, so here it
matters that types are written as they are read (`Source.faithful_of_read`).
-/

import Loadable.Proofs.Exports
import Loadable.Proofs.WrittenTypes

namespace Loadable

namespace Source

/-- A type that is an `Option` of another, by whatever path. -/
def TypeExpr.IsOptionOf (t inner : TypeExpr) : Prop :=
  ∃ qualified rooted modules ts,
    t = .path qualified rooted (modules ++ [.mk "Option" (.angled [.type inner])]) ts

theorem TypeExpr.optionArgument?_eq_some_iff {t inner : TypeExpr} :
    t.optionArgument? = some inner ↔ t.IsOptionOf inner := by
  constructor
  · intro h
    unfold optionArgument? at h
    split at h
    case h_1 qualified rooted segments ts =>
      split at h
      case h_1 name t' hlast =>
        obtain ⟨rfl, heq⟩ := Option.ite_none_right_eq_some.1 h
        obtain ⟨modules, rfl⟩ := List.getLast?_eq_some_iff.1 hlast
        obtain rfl := Option.some.inj heq
        exact ⟨qualified, rooted, modules, ts, rfl⟩
      case h_2 => cases h
    case h_2 => cases h
  · rintro ⟨qualified, rooted, modules, ts, rfl⟩
    simp [optionArgument?]

end Source

namespace Registration

open Source (Token TypeExpr Implementation)

/-! ### What handlers work on and give -/

/-- The type of the state that a handler works on.  A result is kept next to the state. -/
def Handler.stateType : Handler → List Token
  | .init state _ _ => state
  | .deinit state _ => state
  | .number state _ _ _ => state
  | .borrowed state _ _ => state
  | .owned self inner _ => withResult self inner
  | .clear state _ => state
  | .add state _ => state
  | .remove state _ => state

/-- The kind of callback that gives numbers of a type, of which there are two. -/
def numberKind? (inner : List Token) : Option CallbackKind :=
  if inner = [.word "i64"] then some .longlong
  else if inner = [.word "f64"] then some .double
  else none

/-- The kind of callback that a handler does the work of. -/
def Handler.kind? : Handler → Option CallbackKind
  | .init _ _ _ => some .init
  | .deinit _ _ => some .deinit
  | .number _ _ inner _ => numberKind? inner
  | .borrowed _ _ _ => some .string
  | .owned _ _ _ => some .string
  | .clear _ _ => some .clear
  | .add _ _ => some .add
  | .remove _ _ => some .add

namespace Shape

variable {s : Shape} {self : List Token} {slot : Slot}

theorem stateType_handler (s : Shape) (self : List Token) :
    (s.handler self).stateType = s.state self := by
  unfold handler state
  cases s.returns.carrier <;> rfl

/-- **The callbacks of a function work on one state.** -/
theorem stateType_of_mem_slots (h : slot ∈ s.slots self) : slot.handler.stateType = s.state self := by
  rcases eq_of_mem_slots h with rfl | rfl | rfl
  · rfl
  · rfl
  · exact s.stateType_handler self

/-- The carrier says what the type that is carried is. -/
theorem isWord_of_carrierOf {t : TypeExpr} :
    (carrierOf t = .int → t.isWord "i64" = true) ∧ (carrierOf t = .real → t.isWord "f64" = true) := by
  unfold carrierOf
  split
  · exact ⟨fun _ => ‹_›, nofun⟩
  · split
    · exact ⟨nofun, fun _ => ‹_›⟩
    · split <;> exact ⟨nofun, nofun⟩

theorem carrier_ofType (t : TypeExpr) :
    (ofType t).returns.carrier = carrierOf (ofType t).inner := by
  unfold ofType
  cases t.optionArgument? <;> rfl

/-- The type that is carried is written as it is read. -/
theorem written_inner {t : TypeExpr} (h : t.Faithful) : (ofType t).inner.Written := by
  unfold ofType
  cases ht : t.optionArgument? with
  | none => exact h.written
  | some inner => exact h.option inner ht

theorem optional_iff {t : TypeExpr} :
    (ofType t).returns.optional = true ↔ t.IsOptionOf (ofType t).inner := by
  rw [← TypeExpr.optionArgument?_eq_some_iff]
  unfold ofType
  cases ht : t.optionArgument? with
  | none => exact ⟨nofun, nofun⟩
  | some inner => exact ⟨fun _ => rfl, fun _ => rfl⟩

/-- A handler does the work of the callback that it is in: numbers are of the type that it is told. -/
theorem kind?_handler {t : TypeExpr} (h : t.Faithful) :
    ((ofType t).handler self).kind? = some (ofType t).returns.carrier.kind.toKind := by
  have hword := (carrier_ofType t).symm ▸ isWord_of_carrierOf (t := (ofType t).inner)
  have hwritten := written_inner h
  unfold handler
  cases hcarrier : (ofType t).returns.carrier with
  | int =>
    dsimp only [Handler.kind?]
    rw [hwritten _ (hword.1 hcarrier)]
    rfl
  | real =>
    dsimp only [Handler.kind?]
    rw [hwritten _ (hword.2 hcarrier)]
    rfl
  | borrowed => rfl
  | owned => rfl

/-- **The callbacks of a function are of the kinds that their handlers do the work of.** -/
theorem kind?_of_mem_slots {t : TypeExpr} (ht : t.Faithful) (h : slot ∈ (ofType t).slots self) :
    slot.handler.kind? = some slot.kind := by
  rcases eq_of_mem_slots h with rfl | rfl | rfl
  · rfl
  · rfl
  · exact kind?_handler ht

end Shape

/-- What a type stands for: the state that is registered for a type is the one that is declared. -/
def Declaration.resolve : Declaration → List Token → List Token
  | .function self state _, ts => if ts = registeredState self then state else ts
  | .aggregate _ _, ts => ts

/-- A callback that works on a state, has a handler for its kind, and is told of NULL what is so. -/
structure Export.Agrees (x : Export) (state : List Token) (optional : Prop) : Prop where
  state : x.handler.stateType = state
  kind : x.handler.kind? = some x.kind
  mayBeNull : ∀ b, x.handler.mayBeNull? = some b → (b = true ↔ optional)

section Slots

variable {exports : List Export} {names : List String} {type : TypeExpr} {self : List Token}
  (h : Emission exports names ((Shape.ofType type).slots self))

include h

/-- Every callback is one of the shape. -/
theorem Emission.agrees (ht : type.Faithful) {x : Export} (hx : x ∈ exports) :
    x.Agrees ((Shape.ofType type).state self) (type.IsOptionOf (Shape.ofType type).inner) := by
  obtain ⟨name, -, slot, hslot, hemit⟩ := h.sound x hx
  obtain ⟨-, hkind, hhandler⟩ := Slot.emit?_eq_ok_iff.1 hemit
  refine ⟨?_, ?_, fun b hb => ?_⟩
  · rw [hhandler, Shape.stateType_of_mem_slots hslot]
  · rw [hhandler, hkind, Shape.kind?_of_mem_slots ht hslot]
  · rw [hhandler] at hb
    rw [Shape.mayBeNull_of_mem_slots hslot hb, Shape.optional_iff]

end Slots

end Registration
end Loadable
