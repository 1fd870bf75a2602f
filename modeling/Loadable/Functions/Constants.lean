/-
# Functions of nothing

What these return does not depend on the arguments.
-/

import Loadable.Routine

namespace Loadable
namespace Functions

/-- Always NULL. -/
def emptyCall : Routine Unit where
  returns := ⟨.int, true⟩
  init p _ := ⟨p, .ok (), []⟩
  process s _ _ _ := ⟨s, .ok none, []⟩

/-- Always forty-two, and a constant. -/
def theAnswer : Routine Unit where
  returns := ⟨.int, false⟩
  init p _ := ⟨p.set (.isConst true), .ok (), []⟩
  process s _ _ _ := ⟨s, .ok 42, []⟩

/-- A text held in the state. -/
def borrowStr : Routine String where
  returns := ⟨.borrowed, false⟩
  init p _ := ⟨p, .ok "value", []⟩
  process s _ _ _ := ⟨s, .ok (.reference (.text s)), []⟩

/-- Bytes held in the state. -/
def borrowBytes : Routine Bytes where
  returns := ⟨.borrowed, true⟩
  init p _ := ⟨p, .ok [1, 2, 3], []⟩
  process s _ _ _ := ⟨s, .ok (some (.reference (.bytes s))), []⟩

/-- A text held in the state, or one made anew if that is empty. -/
def borrowCow : Routine String where
  returns := ⟨.borrowed, false⟩
  init p _ := ⟨p, .ok "value", []⟩
  process s _ _ _ :=
    ⟨s, .ok (if s.isEmpty then .eitherOwned (.ownedText "empty") else .eitherBorrowed (.text s)), []⟩

/-- Always fails in `init`, with the text its first argument was written as. -/
def failWith : Routine Unit where
  returns := ⟨.int, false⟩
  init p args := ⟨p, .err ((args[0]?.map (·.writtenAs)).getD ""), []⟩
  process s _ _ _ := ⟨s, .ok 0, []⟩

end Functions
end Loadable
