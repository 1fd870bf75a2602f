/-
# The code of a function

What the author of a function writes: how its state is made, how a row is turned into a value, and
for an aggregate how a group is started and a row is folded in or taken out.  Each piece may end
well, with an error or in a panic, and leaves its state as it was at that point.
-/

import Loadable.Event
import Loadable.Returns

namespace Loadable

/-- What a panic carries: a text, or something that is none. -/
inductive Panic where
  | text (s : String)
  | other
  deriving DecidableEq, Repr

/-- The text of a panic in the log. -/
def Panic.message : Panic → String
  | text s => s
  | other => "Box<dyn Any>"

/-- How a piece of code ends. -/
inductive Outcome (ε α : Type) where
  | ok (a : α)
  | err (e : ε)
  | panic (p : Panic)
  deriving DecidableEq, Repr

/-- One run of a piece of code: the state it leaves, its end and what it let be seen. -/
structure Run (σ ε α : Type) where
  state : σ
  outcome : Outcome ε α
  events : List Event := []

/-- An error code of an aggregate, any byte but zero. -/
abbrev Code := { b : UInt8 // b ≠ 0 }

/-- The code in a byte. -/
def Code.ofByte? (b : UInt8) : Option Code := if h : b = 0 then none else some ⟨b, h⟩

/-- What `init` may change: the settings, and the conversions it asks for. -/
structure Preparation where
  settings : Settings
  wishes : Wishes
  deriving DecidableEq, Repr

namespace Preparation

/-- Change a setting. -/
def set (p : Preparation) (c : Settings.Change) : Preparation :=
  { p with settings := p.settings.set c }

/-- Ask for the conversion of an argument. -/
def ask (p : Preparation) (index : Nat) (type : SqlType) : Preparation :=
  { p with wishes := p.wishes.ask index type }

/-- Ask for the conversion of every argument. -/
def askAll (p : Preparation) (type : SqlType) : Preparation :=
  { p with wishes := p.wishes.map fun _ => some type }

/-- Declare the places and the greatest length of the result. -/
def sized (p : Preparation) (decimals maxLength : UInt32) : Preparation :=
  { p with settings := (p.settings.set (.decimals decimals)).setMaxLength maxLength }

end Preparation

/-- The code of a function with states of type `σ`. -/
structure Routine (σ : Type) where
  returns : Returns
  init : Preparation → List Argument → Run Preparation String σ
  process : σ → Settings → List Argument → Option Code → Run σ Unit returns.Value
  clear : σ → Settings → Option Code → Run σ Code Unit := fun s _ _ => ⟨s, .ok (), []⟩
  add : σ → Settings → List Argument → Option Code → Run σ Code Unit :=
    fun s _ _ _ => ⟨s, .ok (), []⟩
  remove : σ → Settings → List Argument → Option Code → Run σ Code Unit :=
    fun s _ _ _ => ⟨s, .ok (), []⟩
  /-- What happens when the state is given up. -/
  drop : σ → Run Unit Empty Unit := fun _ => ⟨(), .ok (), []⟩

end Loadable
