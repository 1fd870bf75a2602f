/-
# Counting rows

`udf_sequence` gives the number of the row plus an offset, `tracked` the number alone.  The count goes
on where adding the offset ended in a panic.
-/

import Loadable.Checked

namespace Loadable
namespace Functions

/-- The rows seen so far. -/
structure Sequence where
  last : Int64
  deriving DecidableEq, Repr

/-- Numbers the rows; the argument, if any, is an offset. -/
def udfSequence : Routine Sequence where
  returns := ⟨.int, false⟩
  init p args :=
    if 1 < args.length then
      ⟨p, .err s!"udf_sequence takes 0 or 1 arguments, got {args.length}", []⟩
    else ⟨(p.ask 0 .int).set (.isConst false), .ok ⟨0⟩, []⟩
  process s _ args _ :=
    match Checked.add? s.last 1 with
    | none => ⟨s, .panic Checked.addOverflow, []⟩
    | some last =>
      ⟨⟨last⟩,
        Checked.orPanic Checked.addOverflow (Checked.add? last ((Argument.intAt? args 0).getD 0)), []⟩

/-- Numbers the rows. -/
def tracked : Routine Sequence where
  returns := ⟨.int, false⟩
  init p _ := ⟨p, .ok ⟨0⟩, []⟩
  process s _ _ _ :=
    match Checked.add? s.last 1 with
    | none => ⟨s, .panic Checked.addOverflow, []⟩
    | some last => ⟨⟨last⟩, .ok last, []⟩

end Functions
end Loadable
