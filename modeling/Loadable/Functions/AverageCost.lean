/-
# The average cost of a position

`avg_cost` follows a position built from purchases and sales.  A trade against the position's
direction keeps the average cost, unless the position crosses to the other side: there it starts
anew at the trade's price.  A trade in the position's direction adds its cost.
-/

import Loadable.Checked

namespace Loadable
namespace Functions

/-- A quantity held and what it cost. -/
structure Position where
  quantity : Int64
  cost : Double
  deriving DecidableEq, Repr

namespace Position

/-- Nothing held. -/
def empty : Position := ⟨0, 0⟩

/-- Whether a trade goes against the position. -/
def opposes (p : Position) (quantity : Int64) : Bool :=
  0 ≤ p.quantity && quantity < 0 || p.quantity < 0 && 0 < quantity

/-- Whether a trade against the position leaves it on the trade's side. -/
def crosses (quantity after : Int64) : Bool :=
  quantity < 0 && after < 0 || 0 < quantity && 0 < after

/-- Nothing held costs nothing. -/
def settled (p : Position) : Position := if p.quantity = 0 then ⟨0, 0⟩ else p

/-- The cost of a unit. -/
def unitCost (p : Position) : Double := p.cost / Double.ofInt p.quantity.toInt

/-- The position after a trade; `none` if 64 bits do not hold the quantity. -/
def trade? (p : Position) (quantity : Int64) (price : Double) : Option Position :=
  (Checked.add? p.quantity quantity).map fun after =>
    if p.opposes quantity then
      let price := if crosses quantity after then price else p.unitCost
      settled ⟨after, price * Double.ofInt after.toInt⟩
    else settled ⟨after, p.cost + price * Double.ofInt quantity.toInt⟩

end Position

/-- The average cost of the position; NULL while nothing is held. -/
def avgCost : Routine Position where
  returns := ⟨.real, true⟩
  init p args :=
    if args.length ≠ 2 then ⟨p, .err s!"expected two arguments; got {args.length}", []⟩
    else ⟨((p.ask 0 .int).ask 1 .real).sized 10 20, .ok Position.empty, []⟩
  process s _ _ _ := ⟨s, .ok (if s.quantity = 0 then none else some s.unitCost), []⟩
  clear _ _ _ := ⟨Position.empty, .ok (), []⟩
  add s _ args _ :=
    match Argument.intAt? args 0, Argument.realAt? args 1 with
    | some quantity, some price =>
      match s.trade? quantity price with
      | some after => ⟨after, .ok (), []⟩
      | none => ⟨s, .panic Checked.addOverflow, []⟩
    | _, _ => ⟨s, .ok (), []⟩

end Functions
end Loadable
