/-
# Arguments given by hand

A list of sample arguments that stands for what a statement passes to a function.  They can be added to
and replaced, and are laid out in arrays whenever a view of them is taken.  The arrays stay until they
are made anew, so they may lag behind the arguments: the types seen in them are those of the
arguments at that time, or those that a function's `init` was granted since.
-/

import Loadable.Arrays
import Loadable.Datum

namespace Loadable

/-- Arguments given by hand, with the arrays in which they were laid out last. -/
structure Samples where
  items : List Sample
  arrays : Arrays
  deriving DecidableEq, Repr

namespace Samples

/-- The types of the values. -/
def ownTypes (items : List Sample) : List SqlType := items.map (·.value.type)

/-- The types of arguments in memory. -/
def typesOf (args : List Argument) : List SqlType :=
  args.filterMap fun a => (SqlType.ofNumber a.tag).toOption

/-- Arguments that are laid out at once. -/
def ofList (items : List Sample) : Samples := ⟨items, .ofList (items.map Sample.place)⟩

/-- Lay the arguments out anew. -/
def rebuild (s : Samples) : Samples := ofList s.items

/-- The types that the server last saw. -/
def types (s : Samples) : List SqlType := s.arrays.types

/-- The arrays as a call for a row gets them. -/
def view (s : Samples) : Arrays := s.rebuild.arrays

/-- The arrays as `init` gets them. -/
def initView (s : Samples) : InitView := .ofArrays s.view

/-- One use of the arguments. -/
inductive Edit where
  /-- One more argument at the end. -/
  | push (item : Sample)
  /-- Another argument in the place of one, if there is one. -/
  | replace (index : Nat) (item : Sample)
  /-- A view for `init`, with the conversions asked for in it, and whether it is flushed. -/
  | prepare (asked : List (Nat × SqlType)) (flushed : Bool)
  /-- A view for a row. -/
  | read
  deriving DecidableEq, Repr

/-- The arguments after a use.  A replacement leaves the arrays alone; all else makes them anew, and a
view for `init` that is flushed is written through. -/
def edit (s : Samples) : Edit → Samples
  | .push item => ofList (s.items ++ [item])
  | .replace index item => { s with items := s.items.set index item }
  | .prepare asked flushed =>
    let v := s.initView.askAll asked
    { s with arrays := (if flushed then v.flush else v).arrays }
  | .read => s.rebuild

/-- The arguments after uses, one after the other. -/
def editAll (s : Samples) (edits : List Edit) : Samples := edits.foldl edit s

end Samples
end Loadable
