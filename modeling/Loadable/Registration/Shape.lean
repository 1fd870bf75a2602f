/-
# What a return type tells

A type in an `Option` may be NULL.  Integers and reals go to the server by value, a type with a
lifetime as bytes of the function's state, and any other type as bytes that are kept for it.
-/

import Loadable.Returns
import Loadable.Source.TypeExpr

namespace Loadable

namespace Source

mutual

/-- Whether a type is a reference or has a lifetime among its arguments. -/
def TypeExpr.borrows : TypeExpr → Bool
  | .path _ _ segments _ => Segment.anyBorrows segments
  | .reference _ => true
  | .paren t _ => t.borrows
  | .other _ => false

def Segment.anyBorrows : List Segment → Bool
  | [] => false
  | .mk _ a :: ss => a.borrows || Segment.anyBorrows ss

def Arguments.borrows : Arguments → Bool
  | .none => false
  | .angled args => GenericArg.anyBorrows args
  | .parenthesized => false

def GenericArg.anyBorrows : List GenericArg → Bool
  | [] => false
  | a :: as => a.borrows || GenericArg.anyBorrows as

def GenericArg.borrows : GenericArg → Bool
  | .lifetime => true
  | .type t => t.borrows
  | .other => false

end

/-- The type in an `Option`, by whatever path that is named. -/
def TypeExpr.optionArgument? : TypeExpr → Option TypeExpr
  | .path _ _ segments _ =>
    match segments.getLast? with
    | some (.mk name (.angled [.type t])) => if name = "Option" then some t else none
    | _ => none
  | _ => none

/-- Whether the type is nothing but a word. -/
def TypeExpr.isWord (t : TypeExpr) (s : String) : Bool := t.toPath?.any (·.isWord s)

end Source

namespace Registration

/-- How values of a type get to the server. -/
structure Shape where
  returns : Returns
  /-- The type without the `Option` around it. -/
  inner : Source.TypeExpr

/-- The carrier of values of a type. -/
def carrierOf (t : Source.TypeExpr) : Carrier :=
  if t.isWord "i64" then .int
  else if t.isWord "f64" then .real
  else if t.borrows then .borrowed
  else .owned

/-- The shape of a return type. -/
def Shape.ofType (t : Source.TypeExpr) : Shape :=
  match t.optionArgument? with
  | some inner => ⟨⟨carrierOf inner, true⟩, inner⟩
  | none => ⟨⟨carrierOf t, false⟩, t⟩

end Registration
end Loadable
