/-
# Moving windows

`group_sum`, `avg2` and `avg_real` keep a tally of the rows of a group: a sum of first values, a sum of
quantities and a count of reals.  All three can take a row out again, and leave the tally to the rows that
remain, so they serve moving windows: the value of a frame is read off its tally
(`Session.frames_follow_their_rows`).

It takes a state.  Where the library has no `init` for the function a statement can be begun without one,
and every step of a group fails (`Session.frame_without_state`).
-/

import Loadable.Functions.Average
import Loadable.Proofs.Tallies

namespace Loadable

/-! ### The functions for moving windows -/

namespace Functions

theorem tallies_groupSum :
    groupSum.Tallies Int64.toInt fun args => ((Argument.intAt? args 0).getD 0).toInt where
  made {p args x} h := by
    dsimp only [groupSum] at h
    split at h
    · cases h
    · cases h; rfl
  clear _ _ _ := ⟨rfl, rfl⟩
  add {x c args e} h := by
    dsimp only [groupSum] at h ⊢
    cases hv : Argument.intAt? args 0 with
    | none => simp
    | some v =>
      simp only [hv] at h ⊢
      split at h
      · cases h
      · cases hsum : Checked.add? x v with
        | none => simp [hsum] at h
        | some sum => simp [*, Checked.toInt_add? hsum]
  remove {x c args e} h := by
    dsimp only [groupSum] at h ⊢
    cases hrest : Checked.sub? x ((Argument.intAt? args 0).getD 0) with
    | none => simp [hrest] at h
    | some rest => exact Checked.toInt_sub? hrest
  process _ _ _ _ := rfl

theorem tallies_avg2 :
    avg2.Tallies (fun x => x.count.toInt)
      fun args => ((Weighted.row? args).map fun row => row.1.toInt).getD 0 where
  made {p args x} h := by
    dsimp only [avg2] at h
    split at h
    · cases h
    · cases h; rfl
  clear _ _ _ := ⟨rfl, rfl⟩
  add {x c args e} h := by
    dsimp only [avg2] at h ⊢
    cases hrow : Weighted.row? args with
    | none => simp
    | some row =>
      cases hcount : Checked.add? x.count row.1 with
      | none => simp [hrow, hcount] at h
      | some count => simpa [hcount] using Checked.toInt_add? hcount
  remove {x c args e} h := by
    dsimp only [avg2] at h ⊢
    cases hrow : Weighted.row? args with
    | none => simp
    | some row =>
      cases hcount : Checked.sub? x.count row.1 with
      | none => simp [hrow, hcount] at h
      | some count => simpa [hcount] using Checked.toInt_sub? hcount
  process _ _ _ _ := rfl

theorem tallies_avgReal :
    avgReal.Tallies (fun x => (x.count.toNat : ℤ))
      fun args => if (Argument.realAt? args 0).isSome then 1 else 0 where
  made {p args x} h := by
    cases h
    rfl
  clear _ _ _ := ⟨rfl, rfl⟩
  add {x c args e} h := by
    dsimp only [avgReal] at h ⊢
    cases hvalue : Argument.realAt? args 0 with
    | none => simp
    | some value =>
      cases hcount : Checked.succ? x.count with
      | none => simp [hvalue, hcount] at h
      | some count =>
        have hnext := Checked.toNat_succ? hcount
        simp [hnext]
  remove {x c args e} h := by
    dsimp only [avgReal] at h ⊢
    cases hvalue : Argument.realAt? args 0 with
    | none => simp
    | some value =>
      cases hcount : Checked.pred? x.count with
      | none => simp [hvalue, hcount] at h
      | some count =>
        have hbefore := Checked.toNat_pred? hcount
        simp [← hbefore]
  process _ _ _ _ := rfl

end Functions

/-! ### What a row weighs -/

namespace Functions

/-- The first argument of `group_sum` is an integer. -/
theorem types_groupSum {c : Context Int64} {args : List Argument}
    (h : (c.init groupSum args).message = none) :
    (Samples.typesOf (c.init groupSum args).args).head? = some .int := by
  rw [Context.args_init h]
  cases args with
  | nil => cases h
  | cons a args => rfl

/-- What takes two arguments, and asks for an integer and a real, is given them. -/
theorem types_pair {σ : Type} {r : Routine σ}
    (hr : ∀ p args x, (r.init p args).outcome = .ok x →
      args.length = 2 ∧ (r.init p args).state.wishes = (p.wishes.ask 0 .int).ask 1 .real)
    {c : Context σ} {args : List Argument} (h : (c.init r args).message = none) :
    Samples.typesOf (c.init r args).args = [.int, .real] := by
  obtain ⟨x, hx⟩ := c.ended_well r args h
  obtain ⟨hlen, hwishes⟩ := hr _ _ _ hx
  obtain ⟨a, b, rfl⟩ := List.length_eq_two.1 hlen
  rw [Context.args_init h, hwishes]
  rfl

theorem types_avg2 {c : Context Weighted} {args : List Argument}
    (h : (c.init avg2 args).message = none) :
    Samples.typesOf (c.init avg2 args).args = [.int, .real] := by
  refine types_pair (fun p args x hx => ?_) h
  dsimp only [avg2] at hx ⊢
  split at hx
  · cases hx
  case isFalse hlen =>
    rw [if_neg hlen]
    exact ⟨not_not.1 hlen, rfl⟩

end Functions

/-- The integer that a value is cast to, zero for NULL. -/
def Datum.whole (d : Datum) : ℤ :=
  match d.convert .int with
  | .int (some n) => n.toInt
  | _ => 0

theorem Datum.whole_eq (d : Datum) :
    d.whole = ((d.convert .int).toValue.toInt?.getD 0).toInt := by
  rw [whole]
  cases d.convert .int with
  | int v => cases v <;> rfl
  | _ => rfl

namespace Functions

/-- What a row adds to a sum of first values. -/
def firstWhole : List Datum → ℤ
  | d :: _ => d.whole
  | [] => 0

/-- What a row of a quantity and a value adds to the sum of quantities: nothing if one is missing. -/
def quantity : List Datum → ℤ
  | [quantity, value] => if quantity.isNull || value.isNull then 0 else quantity.whole
  | _ => 0

/-- Whether the first argument of a row is a real, in a statement with the given types, and no NULL. -/
def hasReal (types : List SqlType) : List Datum → Bool
  | d :: _ => decide (types.head? = some .real) && !d.isNull
  | [] => false

end Functions

namespace Session

open Functions

section Weights

variable {σ : Type} {s : Session σ} {row : List Datum} (hrow : row.length = s.types.length)
  (hlen : s.items.length = s.types.length)

include hrow hlen

theorem firstWhole_laidOut (htype : s.types.head? = some .int) :
    ((Argument.intAt? (s.laidOut row) 0).getD 0).toInt = firstWhole row := by
  rw [Argument.intAt?, bind_laidOut hrow hlen Value.toInt? 0, ← List.head?_eq_getElem?,
    ← List.head?_eq_getElem?, htype]
  cases row with
  | nil => rfl
  | cons d row => exact d.whole_eq.symm

theorem quantity_laidOut (htypes : s.types = [.int, .real]) :
    ((Weighted.row? (s.laidOut row)).map fun row => row.1.toInt).getD 0 = quantity row := by
  obtain ⟨q, v, rfl⟩ := List.length_eq_two.1 (hrow.trans (congrArg List.length htypes))
  have hq : Argument.intAt? (s.laidOut [q, v]) 0 = (q.convert .int).toValue.toInt? := by
    rw [Argument.intAt?, bind_laidOut hrow hlen, htypes]
    rfl
  have hv : Argument.realAt? (s.laidOut [q, v]) 1 = (v.convert .real).toValue.toReal? := by
    rw [Argument.realAt?, bind_laidOut hrow hlen, htypes]
    rfl
  have hqread := (q.convert .int).isSome_toInt?
  have hvread := (v.convert .real).isSome_toReal?
  rw [Datum.type_convert, Datum.isNull_convert] at hqread hvread
  rw [Weighted.row?, hq, hv, quantity, q.whole_eq]
  cases hquantity : (q.convert .int).toValue.toInt? with
  | none => simp_all
  | some n =>
    cases hvalue : (v.convert .real).toValue.toReal? with
    | none => simp_all
    | some x => simp_all

theorem hasReal_laidOut :
    (Argument.realAt? (s.laidOut row) 0).isSome = hasReal s.types row := by
  rw [Argument.realAt?, bind_laidOut hrow hlen, ← List.head?_eq_getElem?, ← List.head?_eq_getElem?]
  cases row with
  | nil => rfl
  | cons d row =>
    rw [hasReal]
    cases s.types.head? with
    | none => rfl
    | some type => simpa using (d.convert type).isSome_toReal?

end Weights

/-! ### The values of frames -/

variable {σ : Type} {s t : Session σ}

/-- A frame in a running statement whose function was prepared by its own `init`. -/
structure Framed (r : Routine σ) (s t : Session σ) (rows : Multiset (List Datum)) : Prop where
  used : Used r s
  initialized : s.initialized = true
  init : s.symbols.init.isSome = true
  frame : Frame s t rows

/-- The value of a frame is made of a state whose tally is what its rows weigh. -/
theorem Framed.finish {r : Routine σ} {rows : Multiset (List Datum)} {tally : σ → ℤ}
    {weight : List Argument → ℤ} (h : Framed r s t rows) (hr : r.Tallies tally weight)
    {value : List Datum → ℤ} (hvalue : ∀ row, row.length = s.types.length →
      s.items.length = s.types.length → weight (s.laidOut row) = value row) :
    ∃ x settings args, tally x = (rows.map value).sum
      ∧ t.finish.result = .ok
        ((Verdict.ofOutcome r.returns (r.process x settings args none).outcome).output t.area.room 0) := by
  obtain ⟨hroutine, hlen, -⟩ := h.used.running h.initialized
  obtain ⟨haccepts, ⟨cell, hcell, htally⟩, herror⟩ := h.frame.tallied h.used hr h.initialized h.init
  have hkept := h.frame.kept
  have hrows : (rows.map fun row => weight (s.laidOut row)) = rows.map value := by
    refine Multiset.map_congr rfl fun row hrow => hvalue row ?_ hlen
    simpa using (Bool.and_eq_true_iff.1 (haccepts row hrow)).2
  exact ⟨cell.state, _, _, htally.trans (congrArg Multiset.sum hrows),
    finish_of_cell t (hkept.routine.trans hroutine) (hkept.initialized.trans h.initialized) herror
      hcell⟩

/-- The types of a frame's statement are those that a successful `init` left. -/
theorem Framed.types {r : Routine σ} {rows : Multiset (List Datum)} (h : Framed r s t rows) :
    ∃ c args, (Context.init r c args).message = none
      ∧ s.types = Samples.typesOf (c.init r args).args :=
  ((h.used.running h.initialized).2.2 h.init).2

/-- Without a state a group has no value. -/
theorem finish_without_state {r : Routine σ} {rows : Multiset (List Datum)} (hused : Used r s)
    (hinit : s.initialized = true) (hnone : s.symbols.init = none) (h : Frame s t rows) :
    t.finish.result = .ok .error := by
  obtain ⟨traced, lookup, name, aggregate, returns, fresh, ops, hfresh, rfl⟩ := hused
  have hnew : fresh.Unmade := fun _ => (start_ok hfresh).1
  have hunmade : (fresh.performAll ops).Unmade :=
    fresh.performAll_keeps (fun _ _ hmove => hmove.unmade) (fun _ _ _ h => h) hnew
  have hstate : t.hasState = false := h.kept.hasState.trans (hunmade hnone)
  have hcell : t.context.cell = none := by simpa [hasState, Context.hasState] using hstate
  rw [t.result_finish (h.kept.initialized.trans hinit), verdict, Context.verdict, hcell]
  rfl

/-- A count as a sum. -/
theorem sum_ite_eq_countP {α : Type} (p : α → Prop) [DecidablePred p] (rows : Multiset α) :
    (rows.map fun row => if p row then (1 : ℤ) else 0).sum = rows.countP p := by
  induction rows using Multiset.induction with
  | empty => rfl
  | cons row rows ih =>
    rw [Multiset.map_cons, Multiset.sum_cons, ih, Multiset.countP_cons, add_comm]
    split <;> simp

/-- **The value of a frame follows its rows,** those that were folded in and not taken out again, in any
order in which no step gave an error.  Of `group_sum` it is the exact sum of the first values, cast to
integers, without those that are NULL; of `avg2` it is NULL exactly if the quantities of the rows in which
nothing is missing add up to zero; of `avg_real` exactly if no row has a real as its first argument that
is not NULL.  Of no function is there a value in a statement that was begun without a state. -/
theorem frames_follow_their_rows :
    (∀ {s t rows}, Framed groupSum s t rows →
      ∃ total : Int64, t.finish.result = .ok (.int total)
        ∧ total.toInt = (rows.map firstWhole).sum)
    ∧ (∀ {s t rows}, Framed avg2 s t rows →
      ∃ output, t.finish.result = .ok output ∧ output ≠ .error
        ∧ (output = .null ↔ (rows.map quantity).sum = 0))
    ∧ (∀ {s t rows}, Framed avgReal s t rows →
      ∃ output, t.finish.result = .ok output ∧ output ≠ .error
        ∧ (output = .null ↔ ∀ row ∈ rows, hasReal s.types row = false))
    ∧ ∀ {σ : Type} {r : Routine σ} {s t rows}, Used r s → s.initialized = true →
      s.symbols.init = none → Frame s t rows → t.finish.result = .ok .error := by
  refine ⟨fun {s t rows} h => ?_, fun {s t rows} h => ?_, fun {s t rows} h => ?_,
    fun hused hinit hnone hframe => ?_⟩
  · obtain ⟨c, args, hmessage, htypes⟩ := h.types
    have htype : s.types.head? = some .int := htypes ▸ types_groupSum hmessage
    obtain ⟨total, settings, args, htotal, hfinish⟩ :=
      h.finish tallies_groupSum fun _ hrow hlen => firstWhole_laidOut hrow hlen htype
    exact ⟨total, hfinish, htotal⟩
  · obtain ⟨c, args, hmessage, htypes⟩ := h.types
    have htype : s.types = [.int, .real] := htypes.trans (types_avg2 hmessage)
    obtain ⟨x, settings, args, hcount, hfinish⟩ :=
      h.finish tallies_avg2 fun _ hrow hlen => quantity_laidOut hrow hlen htype
    rw [← hcount]
    refine ⟨_, hfinish, ?_, ?_⟩
    · dsimp only [avg2]
      split <;> nofun
    · dsimp only [avg2]
      split
      case isTrue hzero => exact iff_of_true rfl (by rw [hzero]; rfl)
      case isFalse hne => exact iff_of_false nofun fun h => hne (Int64.toInt_inj.1 h)
  · obtain ⟨x, settings, args, htotal, hfinish⟩ :=
      h.finish tallies_avgReal fun _ hrow hlen => by rw [hasReal_laidOut hrow hlen]
    have hcount : x.count.toNat = rows.countP (hasReal s.types · = true) := by
      rw [sum_ite_eq_countP] at htotal
      exact Int.ofNat_inj.1 htotal
    have hall : x.count.toNat = 0 ↔ ∀ row ∈ rows, hasReal s.types row = false := by
      rw [hcount, Multiset.countP_eq_zero]
      exact forall₂_congr fun row _ => Iff.of_eq (Bool.not_eq_true _)
    rw [← hall]
    refine ⟨_, hfinish, ?_, ?_⟩
    · dsimp only [avgReal]
      split <;> nofun
    · dsimp only [avgReal]
      split
      case isTrue hpos =>
        have hne : 0 < x.count.toNat := hpos
        exact iff_of_false nofun hne.ne'
      case isFalse hzero =>
        have hle : ¬ 0 < x.count.toNat := hzero
        exact iff_of_true rfl (Nat.eq_zero_of_not_pos hle)
  · exact finish_without_state hused hinit hnone hframe

/-- A frame that two rows came into and one of them left. -/
theorem frames_follow_their_rows_groupSum :
    let s := (ofGroupSum.init [⟨.int none, "n", true⟩]).session
    let t := s.performAll [.begin, .add [.int (some 5)], .add [.int (some 7)],
      .remove [.int (some 5)]]
    Framed groupSum s t {[.int (some 7)]}
      ∧ ∃ total : Int64, t.finish.result = .ok (.int total) ∧ total.toInt = 7 := by
  intro s t
  have hused : Used groupSum s :=
    ⟨none, fun _ => some (), "group_sum", true, .int, ofGroupSum, [.init [⟨.int none, "n", true⟩]],
      rfl, rfl⟩
  have hfirst : (s.begin.session.add [.int (some 5)]).result = .ok 0 := by decide
  have hsecond : ((s.performAll [.begin, .add [.int (some 5)]]).add
      [.int (some 7)]).result = .ok 0 := by decide
  have hthird : ((s.performAll [.begin, .add [.int (some 5)], .add [.int (some 7)]]).remove
      [.int (some 5)]).result = .ok 0 := by decide
  have hboth := (Frame.begun.added [.int (some 5)] hfirst).added [.int (some 7)] hsecond
  rw [Multiset.cons_swap] at hboth
  have hframed : Framed groupSum s t {[.int (some 7)]} := ⟨hused, rfl, rfl, hboth.removed _ hthird⟩
  exact ⟨hframed, frames_follow_their_rows.1 hframed⟩

/-- Without the function's own `init` there is no state, and not even a frame without rows has a value. -/
theorem frame_without_state :
    ¬ ∀ {s t rows}, Used groupSum s → s.initialized = true → Frame s t rows →
      ∃ total : Int64, t.finish.result = .ok (.int total)
        ∧ total.toInt = (rows.map firstWhole).sum := by
  intro h
  let lookup (symbol : String) : Option Unit := if symbol = "group_sum_init" then none else some ()
  let fresh : Session Int64 := { ofGroupSum with symbols := { ofGroupSum.symbols with init := none } }
  have hstart : start groupSum none lookup "group_sum" true .int = .ok fresh := rfl
  have hused : Used groupSum (fresh.init [⟨.int none, "n", true⟩]).session :=
    ⟨none, lookup, "group_sum", true, .int, fresh, [.init [⟨.int none, "n", true⟩]], hstart, rfl⟩
  obtain ⟨total, hvalue, -⟩ := h hused rfl .begun
  have herror := finish_without_state hused rfl rfl .begun
  cases herror.symm.trans hvalue

end Session
end Loadable
