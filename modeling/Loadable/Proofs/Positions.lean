/-
# Exact positions

`avg_cost` adds the quantities of trades up in 64 bits.  A trade whose quantity would not fit is refused in a
panic, before anything is written, and then the position is as it was.  So what is held is exact: it is the sum
of the trades that were taken (`Trade.taken`), each of them with its quantity as it came, and a trade with
something missing counts nothing.

Only a trade in the direction of the position can be refused.  One against it brings the quantity towards zero,
or from there to the other side, and always fits, at the least integer too (`Position.fits_of_opposes`).
The branch for such trades divides by what was held, and only where the trade does not cross to its own side:
then something was held (`Position.ne_zero_of_not_crosses`).

Nothing held costs nothing, so no cost is left behind for the next trade.  All of this is kept row by row
(`Trade.Holds.add`), and over any run of callbacks: `Context.position_is_exact`.
-/

import Loadable.Functions.AverageCost
import Loadable.Proofs.Medians
import Loadable.Proofs.WindowFrames
import Mathlib.Algebra.Ring.Int.Defs

namespace Loadable
namespace Functions

/-! ### One trade -/

namespace Position

variable {p after : Position} {quantity sum : Int64} {price : Double}

/-- The directions in which a trade goes against a position, in exact integers. -/
theorem opposes_iff :
    p.opposes quantity = true
      ↔ 0 ≤ p.quantity.toInt ∧ quantity.toInt < 0 ∨ p.quantity.toInt < 0 ∧ 0 < quantity.toInt := by
  simp [opposes, Int64.le_iff_toInt_le, Int64.lt_iff_toInt_lt]

/-- A trade crosses if it and what is left have one sign. -/
theorem crosses_iff :
    crosses quantity sum = true
      ↔ quantity.toInt < 0 ∧ sum.toInt < 0 ∨ 0 < quantity.toInt ∧ 0 < sum.toInt := by
  simp [crosses, Int64.lt_iff_toInt_lt]

/-- A trade is refused exactly if 64 bits do not hold the quantity after it. -/
theorem trade?_eq_none_iff :
    p.trade? quantity price = none ↔ ¬ Checked.Fits (p.quantity.toInt + quantity.toInt) := by
  rw [trade?, Option.map_eq_none_iff, Checked.add?_eq_none_iff]

theorem quantity_settled (p : Position) : p.settled.quantity = p.quantity := by
  unfold settled
  split
  case isTrue hp => exact hp.symm
  case isFalse => rfl

/-- Nothing held costs nothing. -/
def Flat (p : Position) : Prop := p.quantity = 0 → p.cost = 0

theorem flat_settled (p : Position) : p.settled.Flat := by
  intro h
  rw [quantity_settled] at h
  rw [settled, if_pos h]

/-- A trade that is taken ends with a position that was settled, of the exact quantity. -/
theorem trade?_eq_some (h : p.trade? quantity price = some after) :
    ∃ made : Position, after = made.settled
      ∧ made.quantity.toInt = p.quantity.toInt + quantity.toInt := by
  obtain ⟨sum, hsum, rfl⟩ := Option.map_eq_some_iff.1 h
  have hexact := Checked.toInt_add? hsum
  split
  · exact ⟨_, rfl, hexact⟩
  · exact ⟨_, rfl, hexact⟩

/-- **A trade against the position always fits**, at the least integer too. -/
theorem fits_of_opposes (h : p.opposes quantity = true) :
    Checked.Fits (p.quantity.toInt + quantity.toInt) := by
  by_contra hfits
  have hsigns := Checked.signs_of_not_fits (Checked.fits_toInt p.quantity) (Checked.fits_toInt quantity) hfits
  rw [opposes_iff] at h
  omega

/-- **What a trade against the position divides by:** if it leaves the position on its side, something was
held. -/
theorem ne_zero_of_not_crosses (h : p.opposes quantity = true)
    (hsum : Checked.add? p.quantity quantity = some sum) (hcrosses : crosses quantity sum = false) :
    p.quantity.toInt ≠ 0 := by
  intro hzero
  have hexact := Checked.toInt_add? hsum
  have hside : crosses quantity sum = true := by
    rw [crosses_iff]
    rcases opposes_iff.1 h with ⟨-, htrade⟩ | ⟨hheld, -⟩
    · exact .inl ⟨htrade, by omega⟩
    · exact absurd hzero hheld.ne
  rw [hside] at hcrosses
  cases hcrosses

end Position

/-! ### Rows -/

/-- The row of a trade: its quantity and its price, of which each may be missing. -/
structure Trade where
  quantity : Option Int64
  price : Option Double
  deriving DecidableEq

namespace Trade

/-- The values of the row's arguments. -/
def values (t : Trade) : List Value := [.int t.quantity, .real t.price]

/-- What a trade adds to the quantity; with something missing it counts nothing. -/
def change (t : Trade) : ℤ :=
  match t.quantity, t.price with
  | some quantity, some _ => quantity.toInt
  | _, _ => 0

theorem fits_change (t : Trade) : Checked.Fits t.change := by
  unfold change
  split
  · exact Checked.fits_toInt _
  · exact ⟨by decide, by decide⟩

/-- What trades add to the quantity. -/
def total (trades : List Trade) : ℤ := (trades.map change).sum

theorem total_snoc (trades : List Trade) (t : Trade) : total (trades ++ [t]) = total trades + t.change := by
  simp [total]

/-- The trades that are taken.  A trade is refused if 64 bits do not hold the sum of the quantities of those
taken before and its own. -/
def taken (trades : List Trade) : List Trade :=
  trades.foldl (fun kept t => if Checked.Fits (total kept + t.change) then kept ++ [t] else kept) []

theorem taken_snoc (trades : List Trade) (t : Trade) :
    taken (trades ++ [t])
      = if Checked.Fits (total (taken trades) + t.change) then taken trades ++ [t] else taken trades := by
  rw [taken, List.foldl_append]
  rfl

/-- Rows that are those of trades. -/
def Rows (rows : List (List Argument)) (trades : List Trade) : Prop :=
  rows.map (List.map Argument.value) = trades.map values

instance (rows : List (List Argument)) (trades : List Trade) : Decidable (Rows rows trades) :=
  inferInstanceAs (Decidable (_ = _))

theorem Rows.eq_nil {trades : List Trade} (h : Rows [] trades) : trades = [] := List.map_eq_nil_iff.1 h.symm

theorem Rows.of_snoc {rows : List (List Argument)} {args : List Argument} {trades : List Trade}
    (h : Rows (rows ++ [args]) trades) :
    ∃ before t, trades = before ++ [t] ∧ Rows rows before ∧ args.map Argument.value = t.values := by
  rw [Rows, List.map_append] at h
  obtain ⟨before, last, rfl, hbefore, hlast⟩ := List.append_eq_map_iff.1 h
  obtain ⟨t, rfl, ht⟩ := List.map_eq_singleton_iff.1 hlast
  exact ⟨before, t, rfl, hbefore.symm, ht.symm⟩

/-- A position that trades have led to: what was taken of them is held, and nothing held costs nothing. -/
structure Holds (trades : List Trade) (p : Position) : Prop where
  quantity : p.quantity.toInt = total (taken trades)
  flat : p.Flat

variable {trades : List Trade} {p : Position} {t : Trade} {args : List Argument}

theorem Holds.empty : Holds [] .empty := ⟨rfl, fun _ => rfl⟩

/-- How a row is read. -/
theorem read_args (hargs : args.map Argument.value = t.values) :
    Argument.intAt? args 0 = t.quantity ∧ Argument.realAt? args 1 = t.price := by
  obtain ⟨a, rest, rfl, ha, hrest⟩ := List.map_eq_cons_iff.1 hargs
  obtain ⟨b, rest, rfl, hb, -⟩ := List.map_eq_cons_iff.1 hrest
  exact ⟨congrArg Value.toInt? ha, congrArg Value.toReal? hb⟩

/-- A row whose quantity fits, and one with something missing, ends well. -/
theorem add_of_fits (hargs : args.map Argument.value = t.values)
    (hfits : Checked.Fits (p.quantity.toInt + t.change)) (settings : Settings) (error : Option Code) :
    ∃ after : Position, avgCost.add p settings args error = ⟨after, .ok (), []⟩
      ∧ after.quantity.toInt = p.quantity.toInt + t.change
      ∧ (p.Flat → after.Flat) := by
  obtain ⟨hquantity, hprice⟩ := read_args hargs
  dsimp only [avgCost]
  rw [hquantity, hprice]
  obtain ⟨quantity, price⟩ := t
  cases quantity with
  | none => exact ⟨p, rfl, (Int.add_zero _).symm, id⟩
  | some quantity =>
    cases price with
    | none => exact ⟨p, rfl, (Int.add_zero _).symm, id⟩
    | some price =>
      dsimp only
      cases hafter : p.trade? quantity price with
      | none => exact absurd hfits (Position.trade?_eq_none_iff.1 hafter)
      | some after =>
        obtain ⟨made, rfl, hmade⟩ := Position.trade?_eq_some hafter
        refine ⟨_, rfl, ?_, fun _ => made.flat_settled⟩
        rw [Position.quantity_settled]
        exact hmade

/-- **A row whose quantity does not fit** ends in a panic, and leaves the position as it was. -/
theorem add_of_not_fits (hargs : args.map Argument.value = t.values)
    (hfits : ¬ Checked.Fits (p.quantity.toInt + t.change)) (settings : Settings) (error : Option Code) :
    avgCost.add p settings args error = ⟨p, .panic Checked.addOverflow, []⟩ := by
  have hmissing : t.change ≠ 0 := fun hzero =>
    hfits (by rw [hzero, Int.add_zero]; exact Checked.fits_toInt p.quantity)
  obtain ⟨hquantity, hprice⟩ := read_args hargs
  dsimp only [avgCost]
  rw [hquantity, hprice]
  obtain ⟨quantity, price⟩ := t
  cases quantity with
  | none => exact absurd rfl hmissing
  | some quantity =>
    cases price with
    | none => exact absurd rfl hmissing
    | some price =>
      dsimp only
      rw [Position.trade?_eq_none_iff.2 hfits]

/-- **One row** keeps the position exact. -/
theorem Holds.add (h : Holds trades p) (hargs : args.map Argument.value = t.values) (settings : Settings)
    (error : Option Code) : Holds (trades ++ [t]) (avgCost.add p settings args error).state := by
  by_cases hfits : Checked.Fits (p.quantity.toInt + t.change)
  · obtain ⟨after, hafter, hquantity, hflat⟩ := add_of_fits hargs hfits settings error
    rw [hafter]
    refine ⟨?_, hflat h.flat⟩
    rw [h.quantity] at hfits hquantity
    rw [taken_snoc, if_pos hfits, total_snoc]
    exact hquantity
  · rw [add_of_not_fits hargs hfits]
    refine ⟨?_, h.flat⟩
    rw [h.quantity] at hfits
    rw [taken_snoc, if_neg hfits]
    exact h.quantity

end Trade

/-- Quantity and price are given as an integer and a real. -/
theorem types_avgCost {c : Context Position} {args : List Argument}
    (h : (c.init avgCost args).message = none) :
    Samples.typesOf (c.init avgCost args).args = [.int, .real] := by
  refine types_pair (fun p args x hx => ?_) h
  dsimp only [avgCost] at hx ⊢
  split at hx
  · cases hx
  case isFalse hlen =>
    rw [if_neg hlen]
    exact ⟨not_not.1 hlen, rfl⟩

/-- A statement begins with nothing held. -/
theorem init_avgCost {p : Preparation} {args : List Argument} {position : Position}
    (h : (avgCost.init p args).outcome = .ok position) : position = .empty := by
  dsimp only [avgCost] at h
  split at h
  · cases h
  · cases h
    rfl

end Functions

namespace Context

open Functions

variable {c : Context Position} {p : Position} {stash : Option Bytes}

/-- **One callback** empties the position, goes on with a row, or changes nothing. -/
theorem holds_perform (hcell : c.cell = some ⟨p, stash⟩) {call : Call} (hcall : call.keepsState = true)
    {rows : List (List Argument)} (h : ∀ trades, Trade.Rows rows trades → Trade.Holds trades p) :
    ∃ p' stash', (c.perform ⟨avgCost, call⟩).cell = some ⟨p', stash'⟩
      ∧ ∀ trades, Trade.Rows (if call.begins then [] else rows ++ call.added?.toList) trades →
        Trade.Holds trades p' := by
  have hsame : ∀ trades, Trade.Rows (rows ++ []) trades → Trade.Holds trades p := by
    rwa [List.append_nil]
  cases call with
  | clear flags =>
    refine ⟨.empty, stash, c.cell_stepWith .clear _ flags hcell, fun trades htrades => ?_⟩
    obtain rfl := htrades.eq_nil
    exact .empty
  | add args flags =>
    refine ⟨_, stash, c.cell_stepWith .add _ flags hcell, fun trades htrades => ?_⟩
    obtain ⟨before, t, rfl, hbefore, hargs⟩ := htrades.of_snoc
    exact (h before hbefore).add hargs c.settings flags.code?
  | remove args flags => exact ⟨p, stash, c.cell_stepWith .remove _ flags hcell, hsame⟩
  | process args flags area =>
    obtain ⟨stash', hafter⟩ := c.cell_process avgCost args flags area hcell
    exact ⟨p, stash', hafter, hsame⟩
  | init args => cases hcall
  | deinit => cases hcall

/-- **After a run of callbacks** the position is that of the trades since the last new group. -/
theorem holds_performAll (hcell : c.cell = some ⟨.empty, stash⟩) {calls : List Call}
    (hcalls : ∀ call ∈ calls, call.keepsState = true) :
    ∃ p stash', (c.performAll (calls.map (Step.mk avgCost))).cell = some ⟨p, stash'⟩
      ∧ ∀ trades, Trade.Rows (Call.groupRows calls) trades → Trade.Holds trades p := by
  induction calls using List.reverseRecOn with
  | nil =>
    refine ⟨.empty, stash, hcell, fun trades htrades => ?_⟩
    obtain rfl := htrades.eq_nil
    exact .empty
  | append_singleton calls call ih =>
    obtain ⟨p, stash', hp, hholds⟩ := ih fun call h => hcalls call (List.mem_append_left _ h)
    rw [List.map_append, List.map_singleton, performAll_snoc, Call.groupRows_snoc]
    exact holds_perform hp (hcalls call (by simp)) hholds

/-- A context in which a position is held, and what a call for the average cost and a further row make of it. -/
structure Follows (d : Context Position) (p : Position) (total : ℤ) : Prop where
  cell : ∃ stash, d.cell = some ⟨p, stash⟩
  quantity : p.quantity.toInt = total
  flat : total = 0 → p.cost = 0
  /-- Without a position the average cost is NULL. -/
  null : total = 0 → ∀ args flags area, let reply := d.process avgCost args flags area
    reply.returned = .real 0 ∧ reply.flags = flags.setNull
  /-- Else it is a real, and what it is divided by is not zero. -/
  average : total ≠ 0 → ∀ args flags area, let reply := d.process avgCost args flags area
    reply.returned = .real (p.cost / Double.ofInt total) ∧ reply.flags = flags
  /-- A row that fits is taken. -/
  fits : ∀ (t : Trade) (args : List Argument), args.map Argument.value = t.values →
    Checked.Fits (total + t.change) → ∀ flags, let reply := d.add avgCost args flags
    reply.flags = flags ∧ reply.events = []
  /-- A row that does not is refused, and has the direction of the position. -/
  refused : ∀ (t : Trade) (args : List Argument), args.map Argument.value = t.values →
    ¬ Checked.Fits (total + t.change) →
      (0 < total ∧ 0 < t.change ∨ total < 0 ∧ t.change < 0)
      ∧ ∀ flags, d.add avgCost args flags
        = ⟨d, flags.setError 1, [panicked "add" Checked.addOverflow]⟩
  /-- The branch for trades against the position adds without overflow, and divides by what is not zero. -/
  opposed : ∀ quantity, p.opposes quantity = true → ∃ sum, Checked.add? p.quantity quantity = some sum
    ∧ (Position.crosses quantity sum = false → total ≠ 0)

/-- A call for the average cost, with and without a position. -/
theorem process_avgCost (hcell : c.cell = some ⟨p, stash⟩) (args : List Argument) (flags : Flags)
    (area : ResultArea) :
    let reply := c.process avgCost args flags area
    (p.quantity = 0 → reply.returned = .real 0 ∧ reply.flags = flags.setNull)
      ∧ (p.quantity ≠ 0 → reply.returned = .real p.unitCost ∧ reply.flags = flags) := by
  rw [process_prepared avgCost c args flags area hcell]
  dsimp only [avgCost]
  constructor
  · intro hzero
    rw [if_pos hzero]
    exact ⟨rfl, rfl⟩
  · intro hheld
    rw [if_neg hheld]
    exact ⟨rfl, rfl⟩

theorem follows_of_holds {trades : List Trade} (hcell : c.cell = some ⟨p, stash⟩)
    (h : Trade.Holds trades p) : Follows c p (Trade.total (Trade.taken trades)) := by
  rw [← h.quantity]
  have hzero : p.quantity.toInt = 0 ↔ p.quantity = 0 := Int64.toInt_inj (y := 0)
  refine ⟨⟨stash, hcell⟩, rfl, fun hnone => h.flat (hzero.1 hnone), ?_, ?_, ?_, ?_, ?_⟩
  · exact fun hnone args flags area => (process_avgCost hcell args flags area).1 (hzero.1 hnone)
  · exact fun hheld args flags area => (process_avgCost hcell args flags area).2 (mt hzero.2 hheld)
  · intro t args hargs hfits flags
    obtain ⟨after, hafter, -⟩ := Trade.add_of_fits hargs hfits c.settings flags.code?
    simp only [add, stepWith, hcell, hafter, and_self]
  · intro t args hargs hfits
    refine ⟨Checked.signs_of_not_fits (Checked.fits_toInt _) t.fits_change hfits, fun flags => ?_⟩
    simp only [add, stepWith, hcell, Trade.add_of_not_fits hargs hfits]
    rw [← hcell]
    rfl
  · intro quantity hopposes
    obtain ⟨sum, hsum, -⟩ := Checked.exists_add? (Position.fits_of_opposes hopposes)
    exact ⟨sum, hsum, Position.ne_zero_of_not_crosses hopposes hsum⟩

/-- **An exact position.**  A successful `init` has the quantity given as an integer and the price as a real.
After it let there be any callbacks for groups, rows and average costs, in any order, of which the rows since the
last new group, or since `init`, are those of trades.  Then the quantity held is the exact sum of the quantities
of the trades with nothing missing, but for those that were refused, as 64 bits would not have held the sum.
A position of zero costs `+0.0`, and exactly then the average cost is NULL; else it is the cost over the
position.  A further row that fits is taken.  One that does not ends in a panic, which is told as error 1 and
leaves everything as it was; and it has the direction of the position.  The branch for rows in the other
direction adds without overflow, and where it divides by the position that is not zero. -/
theorem position_is_exact {c : Context Position} {items : List Argument}
    (hinit : (c.init avgCost items).message = none) {calls : List Call}
    (hcalls : ∀ call ∈ calls, call.keepsState = true) {trades : List Trade}
    (htrades : Trade.Rows (Call.groupRows calls) trades) :
    Samples.typesOf (c.init avgCost items).args = [.int, .real]
      ∧ ∃ p, Follows ((c.init avgCost items).context.performAll (calls.map (Step.mk avgCost))) p
        (Trade.total (Trade.taken trades)) := by
  have hstart : (c.init avgCost items).context.cell = some ⟨.empty, none⟩ := by
    obtain ⟨position, hposition, hcell⟩ := c.init_made avgCost items hinit
    rw [hcell, init_avgCost hposition]
  obtain ⟨p, stash, hcell, hholds⟩ := holds_performAll hstart hcalls
  exact ⟨types_avgCost hinit, p, follows_of_holds hcell (hholds trades htrades)⟩

/-- The greatest quantity is bought, one more is refused, five are sold, and a sale without a price is left
out.  Then the position is the greatest quantity less five, and six more are refused. -/
theorem position_is_exact_atTheLimit :
    let row (t : Trade) : List Argument :=
      [(⟨.int t.quantity, "quantity", true⟩ : Sample).place, (⟨.real t.price, "price", true⟩ : Sample).place]
    let trades : List Trade :=
      [⟨some 9223372036854775807, some 0⟩, ⟨some 1, some 0⟩, ⟨some (-5), some 0⟩, ⟨some (-7), none⟩]
    let start : Context Position := (Context.fresh.init avgCost (row ⟨none, none⟩)).context
    let calls : List Call :=
      [.add (row ⟨some 100, some 0⟩) .clear, .clear .clear] ++ trades.map fun t => .add (row t) .clear
    let d := start.performAll (calls.map (Step.mk avgCost))
    (∃ p, (∃ stash, d.cell = some ⟨p, stash⟩) ∧ p.quantity.toInt = 9223372036854775802)
      ∧ d.add avgCost (row ⟨some 6, some 0⟩) .clear
        = ⟨d, ⟨some 0, some 1⟩, [panicked "add" Checked.addOverflow]⟩ := by
  intro row trades start calls d
  have hinit : ((Context.fresh (σ := Position)).init avgCost (row ⟨none, none⟩)).message = none := rfl
  have hcalls : ∀ call ∈ calls, call.keepsState = true := by decide
  have htrades : Trade.Rows (Call.groupRows calls) trades := by decide +kernel
  have htotal : Trade.total (Trade.taken trades) = 9223372036854775802 := by decide +kernel
  obtain ⟨-, p, hp⟩ := position_is_exact hinit hcalls htrades
  rw [htotal] at hp
  obtain ⟨-, hrefused⟩ := hp.refused ⟨some 6, some 0⟩ (row ⟨some 6, some 0⟩) (by decide +kernel) (by decide)
  exact ⟨⟨p, hp.cell, hp.quantity⟩, hrefused .clear⟩

end Context
end Loadable
