/-
# Roles

An implementation says what a function gives for a row, or how an aggregate takes up the rows of a
group; the trait it is for tells which.
-/

import Loadable.Source.TypeExpr

namespace Loadable
namespace Registration

/-- What an implementation is for. -/
inductive Role where
  /-- The function itself. -/
  | basic
  /-- The groups of an aggregate. -/
  | aggregate
  deriving DecidableEq, Repr

/-- The names of the modules that the traits may be reached through. -/
def traitModules : List String := ["udf", "traits", "prelude"]

/-- The role that goes with a trait. -/
def Role.ofPath? (p : Source.Path) : Option Role :=
  if p.segments.dropLast.all (traitModules.contains ·.name) then
    match p.segments.getLast?.map Source.Segment.name with
    | some "BasicUdf" => some basic
    | some "AggregateUdf" => some aggregate
    | _ => none
  else none

end Registration
end Loadable
