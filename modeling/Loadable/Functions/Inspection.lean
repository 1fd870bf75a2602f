/-
# What the arguments are

`udf_attribute` gives the texts the arguments were written as; `is_const` and `arg_is_const` say
whether the first was a constant when the call was prepared, and count as constants themselves if
it was.
-/

import Loadable.Routine

namespace Loadable
namespace Functions

/-- The texts of the arguments, with commas between them. -/
def udfAttribute : Routine Unit where
  returns := ⟨.owned, false⟩
  init p _ := ⟨p, .ok (), []⟩
  process s _ args _ :=
    ⟨s, .ok (Utf8.encode (String.intercalate ", " (args.map (·.writtenAs)))), []⟩

/-- Whether an argument was a constant. -/
structure Constancy where
  isConst : Bool
  deriving DecidableEq, Repr

/-- Whether the first argument is a constant. -/
def firstIsConst (args : List Argument) : Bool :=
  match args[0]? with
  | some a => a.isConst
  | none => false

/-- Says in words whether its one argument is a constant. -/
def isConst : Routine Constancy where
  returns := ⟨.borrowed, false⟩
  init p args :=
    if args.length ≠ 1 then ⟨p, .err "is_const takes a single argument", []⟩
    else ⟨p.set (.isConst (firstIsConst args)), .ok ⟨firstIsConst args⟩, []⟩
  process s _ _ _ :=
    ⟨s, .ok (.reference (.text (if s.isConst then "const" else "not const"))), []⟩

/-- Says by a number whether its first argument is a constant. -/
def argIsConst : Routine Constancy where
  returns := ⟨.int, false⟩
  init p args := ⟨p.set (.isConst (firstIsConst args)), .ok ⟨firstIsConst args⟩, []⟩
  process s _ _ _ := ⟨s, .ok (if s.isConst then 1 else 0), []⟩

end Functions
end Loadable
