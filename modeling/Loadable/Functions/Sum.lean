/-
# Sums of arguments

`sum_int` and `add_all` convert all arguments to integers and add them up, leaving NULL out.  A
partial sum that 64 bits do not hold ends in a panic.
-/

import Loadable.Checked

namespace Loadable
namespace Functions

/-- The sum of the arguments that are integers. -/
def sumArguments {σ : Type} (s : σ) (args : List Argument) : Run σ Unit Int64 :=
  ⟨s, Checked.orPanic Checked.addOverflow (Checked.sum? (args.filterMap (·.value.toInt?))), []⟩

/-- Any number of arguments; the sum counts as a constant. -/
def sumInt : Routine Unit where
  returns := ⟨.int, false⟩
  init p _ := ⟨(p.askAll .int).set (.isConst true), .ok (), []⟩
  process s _ args _ := sumArguments s args

/-- At least one argument. -/
def addAll : Routine Unit where
  returns := ⟨.int, false⟩
  init p args :=
    if args.isEmpty then ⟨p, .err "add_all takes at least one argument", []⟩
    else ⟨p.askAll .int, .ok (), []⟩
  process s _ args _ := sumArguments s args

end Functions
end Loadable
