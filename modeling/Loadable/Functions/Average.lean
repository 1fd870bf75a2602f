/-
# Averages over a group

`avg2` divides a sum of values by a sum of quantities, `avg_real` by the number of values.  Both can
take a row out again, so they serve moving windows.  A row in which something is missing does not
count.
-/

import Loadable.Checked

namespace Loadable
namespace Functions

/-- A sum of quantities and a sum of values. -/
structure Weighted where
  count : Int64
  sum : Double
  deriving DecidableEq, Repr

/-- Quantity and value of a row. -/
def Weighted.row? (args : List Argument) : Option (Int64 × Double) :=
  match Argument.intAt? args 0, Argument.realAt? args 1 with
  | some quantity, some value => some (quantity, value)
  | _, _ => none

/-- Values over quantities; NULL while the quantities add up to zero. -/
def avg2 : Routine Weighted where
  returns := ⟨.real, true⟩
  init p args :=
    if args.length ≠ 2 then ⟨p, .err s!"avg2 takes 2 arguments, got {args.length}", []⟩
    else ⟨((p.ask 0 .int).ask 1 .real).sized 10 20, .ok ⟨0, 0⟩, []⟩
  process s _ _ _ :=
    ⟨s, .ok (if s.count = 0 then none else some (s.sum / Double.ofInt s.count.toInt)), []⟩
  clear _ _ _ := ⟨⟨0, 0⟩, .ok (), []⟩
  add s _ args _ :=
    match Weighted.row? args with
    | none => ⟨s, .ok (), []⟩
    | some (quantity, value) =>
      match Checked.add? s.count quantity with
      | none => ⟨s, .panic Checked.addOverflow, []⟩
      | some count => ⟨⟨count, s.sum + value⟩, .ok (), []⟩
  remove s _ args _ :=
    match Weighted.row? args with
    | none => ⟨s, .ok (), []⟩
    | some (quantity, value) =>
      match Checked.sub? s.count quantity with
      | none => ⟨s, .panic Checked.subOverflow, []⟩
      | some count => ⟨⟨count, s.sum - value⟩, .ok (), []⟩

/-- A number of values and their sum. -/
structure Counted where
  count : UInt64
  sum : Double
  deriving DecidableEq, Repr

/-- Values over their number; NULL while there are none.  Only reals count.  Taking out more values
than there are ends in a panic, and so does one value too many to count, after the sum has changed. -/
def avgReal : Routine Counted where
  returns := ⟨.real, true⟩
  init p _ := ⟨p, .ok ⟨0, 0⟩, []⟩
  process s _ _ _ :=
    ⟨s, .ok (if 0 < s.count then some (s.sum / Double.ofInt s.count.toNat) else none), []⟩
  clear _ _ _ := ⟨⟨0, 0⟩, .ok (), []⟩
  add s _ args _ :=
    match Argument.realAt? args 0 with
    | none => ⟨s, .ok (), []⟩
    | some value =>
      let s := { s with sum := s.sum + value }
      match Checked.succ? s.count with
      | none => ⟨s, .panic Checked.addOverflow, []⟩
      | some count => ⟨{ s with count }, .ok (), []⟩
  remove s _ args _ :=
    match Argument.realAt? args 0 with
    | none => ⟨s, .ok (), []⟩
    | some value =>
      let s := { s with sum := s.sum - value }
      match Checked.pred? s.count with
      | none => ⟨s, .panic Checked.subOverflow, []⟩
      | some count => ⟨{ s with count }, .ok (), []⟩

end Functions
end Loadable
