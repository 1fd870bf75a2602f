/-
# Steps that fail

A step of a group that fails has run some of its code, and what that changed stays: a panic is caught, and
nothing is taken back.  So whether the state is as before lies with the order of the code.  Of a function
that changes its state only after everything that can fail (`Routine.ChangesLast`), a step that fails leaves
the context as it was (`Context.perform_of_fails`), and a run is the same without the steps that failed
(`Context.visits_succeeding`).

All aggregates of the catalog are of that kind but one.  `avg_real` changes its sum before it counts, so a
value that cannot be counted stays in the sum until the next group (`perform_avgReal_of_fails`).
-/

import Loadable.Datum
import Loadable.Proofs.GroupErrors
import Loadable.Proofs.Lifetime
import Loadable.Proofs.Renewal

namespace Loadable

/-! ### Steps that change nothing unless they end well -/

/-- A run that ends well, or leaves the state as it was. -/
inductive Run.ChangesLast {σ : Type} (s : σ) : Run σ Code Unit → Prop where
  | ok (t : σ) (events : List Event) : ChangesLast s ⟨t, .ok (), events⟩
  | kept (outcome : Outcome Code Unit) (events : List Event) : ChangesLast s ⟨s, outcome, events⟩

theorem Run.ChangesLast.state_eq {σ : Type} {s : σ} {run : Run σ Code Unit} (h : run.ChangesLast s)
    (hfails : run.outcome.failure?.isSome = true) : run.state = s := by
  cases h with
  | ok t events => cases hfails
  | kept outcome events => rfl

/-- The steps of a function change its state only if they end well. -/
structure Routine.ChangesLast {σ : Type} (r : Routine σ) : Prop where
  clear (s : σ) (settings : Settings) (error : Option Code) :
    (r.clear s settings error).ChangesLast s
  add (s : σ) (settings : Settings) (args : List Argument) (error : Option Code) :
    (r.add s settings args error).ChangesLast s
  remove (s : σ) (settings : Settings) (args : List Argument) (error : Option Code) :
    (r.remove s settings args error).ChangesLast s

namespace Context

variable {σ : Type} (c : Context σ)

theorem mem_of_mem_visits {c : Context σ} {steps : List (Step σ)} {v : Context σ × Step σ}
    (h : v ∈ c.visits steps) : v.2 ∈ steps := by
  induction steps generalizing c with
  | nil => cases h
  | cons step steps ih =>
    rcases List.mem_cons.1 h with rfl | h
    · exact List.mem_cons_self
    · exact List.mem_cons_of_mem _ (ih h)

/-- Whether a callback is a step of a group and fails. -/
def fails (step : Step σ) : Bool :=
  match step.call with
  | .clear flags => (c.failure? (fun s e => step.code.clear s c.settings e) flags).isSome
  | .add args flags => (c.failure? (fun s e => step.code.add s c.settings args e) flags).isSome
  | .remove args flags => (c.failure? (fun s e => step.code.remove s c.settings args e) flags).isSome
  | _ => false

/-- The callbacks of a run but for the steps that fail. -/
def succeeding (steps : List (Step σ)) : List (Step σ) :=
  ((c.visits steps).filter fun v => !v.1.fails v.2).map Prod.snd

theorem withState_self {c : Context σ} {cell : Cell σ} (h : c.cell = some cell) :
    c.withState cell cell.state = c := by
  obtain ⟨settings, cell'⟩ := c
  obtain rfl : cell' = some cell := h
  rfl

theorem stepWith_of_failure (part : Stage) {code : σ → Option Code → Run σ Code Unit} {flags : Flags}
    (hcode : ∀ s e, (code s e).ChangesLast s) (h : (c.failure? code flags).isSome = true) :
    (stepWith part code c flags).context = c := by
  rw [c.context_stepWith]
  unfold failure? at h
  cases hcell : c.cell with
  | none => rfl
  | some cell =>
    rw [hcell] at h
    rw [Option.elim_some, (hcode _ _).state_eq h, withState_self hcell]

/-- **A step that fails** leaves everything as it was, of a function that changes its state last. -/
theorem perform_of_fails {step : Step σ} (hcode : step.code.ChangesLast)
    (h : c.fails step = true) : c.perform step = c := by
  obtain ⟨code, call⟩ := step
  cases call with
  | clear flags => exact c.stepWith_of_failure .clear (fun s e => hcode.clear s _ e) h
  | add args flags => exact c.stepWith_of_failure .add (fun s e => hcode.add s _ args e) h
  | remove args flags => exact c.stepWith_of_failure .remove (fun s e => hcode.remove s _ args e) h
  | _ => cases h

/-- **A run without the steps that fail:** every other callback meets the same context, and the same is left
in the end. -/
theorem visits_succeeding {steps : List (Step σ)} (h : ∀ step ∈ steps, step.code.ChangesLast) :
    c.visits (c.succeeding steps) = (c.visits steps).filter (fun v => !v.1.fails v.2)
      ∧ c.performAll (c.succeeding steps) = c.performAll steps := by
  induction steps generalizing c with
  | nil => exact ⟨rfl, rfl⟩
  | cons step steps ih =>
    obtain ⟨hstep, hsteps⟩ := List.forall_mem_cons.1 h
    by_cases hfails : c.fails step = true
    · have hkept := c.perform_of_fails hstep hfails
      have hsucceeding : c.succeeding (step :: steps) = c.succeeding steps := by
        simp [succeeding, visits, hfails, hkept]
      have hvisits : (c.visits (step :: steps)).filter (fun v => !v.1.fails v.2)
          = (c.visits steps).filter (fun v => !v.1.fails v.2) := by
        simp [visits, hfails, hkept]
      have hall : c.performAll (step :: steps) = c.performAll steps := congrArg (performAll · steps) hkept
      rw [hsucceeding, hvisits, hall]
      exact ih c hsteps
    · have hsucceeding : c.succeeding (step :: steps)
          = step :: (c.perform step).succeeding steps := by
        simp [succeeding, visits, hfails]
      obtain ⟨hrest, hlast⟩ := ih (c.perform step) hsteps
      rw [hsucceeding]
      refine ⟨?_, hlast⟩
      rw [visits, visits, hrest, List.filter_cons_of_pos (by simp [hfails])]

end Context

/-! ### The aggregates of the catalog -/

namespace Functions

theorem changesLast_avg2 : avg2.ChangesLast where
  clear _ _ _ := .ok _ _
  add s _ args _ := by
    dsimp only [avg2]
    split
    · exact .ok _ _
    · split
      · exact .kept _ _
      · exact .ok _ _
  remove s _ args _ := by
    dsimp only [avg2]
    split
    · exact .ok _ _
    · split
      · exact .kept _ _
      · exact .ok _ _

theorem changesLast_avgCost : avgCost.ChangesLast where
  clear _ _ _ := .ok _ _
  add s _ args _ := by
    dsimp only [avgCost]
    split
    · split
      · exact .ok _ _
      · exact .kept _ _
    · exact .ok _ _
  remove _ _ _ _ := .ok _ _

theorem changesLast_udfMedian : udfMedian.ChangesLast where
  clear _ _ _ := .ok _ _
  add values _ args _ := by
    dsimp only [udfMedian]
    split <;> exact .ok _ _
  remove _ _ _ _ := .ok _ _

theorem changesLast_groupSum : groupSum.ChangesLast where
  clear _ _ _ := .ok _ _
  add total _ args _ := by
    dsimp only [groupSum]
    split
    · split
      · exact .kept _ _
      · split
        · exact .ok _ _
        · exact .kept _ _
    · exact .ok _ _
  remove total _ args _ := by
    dsimp only [groupSum]
    split
    · exact .ok _ _
    · exact .kept _ _

theorem changesLast_collectWords : collectWords.ChangesLast where
  clear _ _ _ := .ok _ _
  add s _ args _ := by
    dsimp only [collectWords]
    split <;> exact .ok _ _
  remove _ _ _ _ := .ok _ _

theorem changesLast_volatile : volatile.ChangesLast where
  clear _ _ _ := .ok _ _
  add s _ args _ := by
    dsimp only [volatile]
    split
    · exact .kept _ _
    · exact .ok _ _
  remove _ _ _ _ := .ok _ _

theorem changesLast_logCalls : logCalls.ChangesLast where
  clear _ _ _ := .ok _ _
  add _ _ _ _ := .ok _ _
  remove _ _ _ _ := .ok _ _

end Functions

namespace Catalog

open Functions

/-- **The aggregates of the catalog** but `avg_real`, and but those that follow scripts and count their calls,
change their state last. -/
theorem changesLast_of_mem {outside : Outside} {f : Registered} (hf : f ∈ functions outside)
    (hgroups : f.aggregate = true) (hscripted : ∀ s ∈ Scripted.all, s.name ∉ f.names)
    (hname : "avg_real" ∉ f.names) (script : Script) : (f.code script).ChangesLast := by
  have hall : ∀ f ∈ aggregates, (∀ s ∈ Scripted.all, s.name ∉ f.names) → "avg_real" ∉ f.names →
      ∀ script, (f.code script).ChangesLast := by
    unfold aggregates
    simp only [List.forall_mem_append, List.forall_mem_cons, List.forall_mem_map]
    exact ⟨⟨
      fun _ _ _ => changesLast_avg2,
      fun _ _ _ => changesLast_avgCost,
      fun _ _ _ => changesLast_udfMedian,
      fun _ _ _ => changesLast_logCalls,
      fun _ _ _ => changesLast_groupSum,
      fun _ _ _ => changesLast_collectWords,
      fun _ _ _ => changesLast_volatile,
      fun _ h => absurd List.mem_cons_self h,
      nofun⟩,
      fun s hs h => absurd (List.mem_singleton_self s.name) (h s hs)⟩
  exact hall f (mem_aggregates hf hgroups) hscripted hname script

end Catalog

/-! ### The aggregate that changes its sum first -/

namespace Functions

variable {s : Counted} {settings : Settings} {args : List Argument} {error : Option Code}

/-- A value that `avg_real` fails to add is one more than can be counted, and is in the sum. -/
theorem avgReal_add_of_failure
    (h : (avgReal.add s settings args error).outcome.failure?.isSome = true) :
    ∃ v, Argument.realAt? args 0 = some v ∧ s.count.toNat + 1 = UInt64.size
      ∧ (avgReal.add s settings args error).state = { s with sum := s.sum + v } := by
  dsimp only [avgReal] at h ⊢
  cases hv : Argument.realAt? args 0 with
  | none => rw [hv] at h; cases h
  | some v =>
    rw [hv] at h
    dsimp only at h ⊢
    cases hcount : Checked.succ? s.count with
    | none => exact ⟨v, rfl, Checked.succ?_eq_none_iff.1 hcount, rfl⟩
    | some count => rw [hcount] at h; cases h

/-- A value that `avg_real` fails to take out is one that there is not, and is off the sum. -/
theorem avgReal_remove_of_failure
    (h : (avgReal.remove s settings args error).outcome.failure?.isSome = true) :
    ∃ v, Argument.realAt? args 0 = some v ∧ s.count = 0
      ∧ (avgReal.remove s settings args error).state = { s with sum := s.sum - v } := by
  dsimp only [avgReal] at h ⊢
  cases hv : Argument.realAt? args 0 with
  | none => rw [hv] at h; cases h
  | some v =>
    rw [hv] at h
    dsimp only at h ⊢
    cases hcount : Checked.pred? s.count with
    | none => exact ⟨v, rfl, Checked.pred?_eq_none_iff.1 hcount, rfl⟩
    | some count => rw [hcount] at h; cases h

end Functions

namespace Context

open Functions

/-- **A step of `avg_real` that fails** without a state leaves all as it was.  Else a value was to be counted
above the greatest number, or below zero, and the sum has it all the same. -/
theorem perform_avgReal_of_fails {c : Context Counted} {call : Call}
    (h : c.fails ⟨avgReal, call⟩ = true) :
    (c.cell = none ∧ c.perform ⟨avgReal, call⟩ = c)
      ∨ ∃ cell args flags v, c.cell = some cell ∧ Argument.realAt? args 0 = some v
        ∧ (call = .add args flags ∧ cell.state.count.toNat + 1 = UInt64.size
            ∧ c.perform ⟨avgReal, call⟩
              = c.withState cell { cell.state with sum := cell.state.sum + v }
          ∨ call = .remove args flags ∧ cell.state.count = 0
            ∧ c.perform ⟨avgReal, call⟩
              = c.withState cell { cell.state with sum := cell.state.sum - v }) := by
  cases call with
  | clear flags =>
    refine .inl ?_
    unfold fails failure? at h
    cases hcell : c.cell with
    | none => exact ⟨rfl, (c.context_stepWith ..).trans (by rw [hcell]; rfl)⟩
    | some cell => rw [hcell] at h; cases h
  | add args flags =>
    unfold fails failure? at h
    have hstep : c.perform ⟨avgReal, .add args flags⟩ = _ := c.context_stepWith ..
    cases hcell : c.cell with
    | none => exact .inl ⟨rfl, hstep.trans (by rw [hcell]; rfl)⟩
    | some cell =>
      rw [hcell] at h hstep
      obtain ⟨v, hv, hcount, hstate⟩ := avgReal_add_of_failure h
      rw [Option.elim_some, hstate] at hstep
      exact .inr ⟨cell, args, flags, v, rfl, hv, .inl ⟨rfl, hcount, hstep⟩⟩
  | remove args flags =>
    unfold fails failure? at h
    have hstep : c.perform ⟨avgReal, .remove args flags⟩ = _ := c.context_stepWith ..
    cases hcell : c.cell with
    | none => exact .inl ⟨rfl, hstep.trans (by rw [hcell]; rfl)⟩
    | some cell =>
      rw [hcell] at h hstep
      obtain ⟨v, hv, hcount, hstate⟩ := avgReal_remove_of_failure h
      rw [Option.elim_some, hstate] at hstep
      exact .inr ⟨cell, args, flags, v, rfl, hv, .inr ⟨rfl, hcount, hstep⟩⟩
  | _ => cases h

/-- What the failed step left is gone in the next group. -/
theorem clear_of_fails {c : Context Counted} {call : Call} (h : c.fails ⟨avgReal, call⟩ = true)
    (flags : Flags) :
    (c.perform ⟨avgReal, call⟩).perform ⟨avgReal, .clear flags⟩
      = c.perform ⟨avgReal, .clear flags⟩ := by
  have hclear (t : Context Counted) := t.context_stepWith .clear
    (fun s e => avgReal.clear s t.settings e) flags
  rcases perform_avgReal_of_fails h with ⟨-, hkept⟩ | ⟨cell, args, flags', v, hcell, -, h⟩
  · rw [hkept]
  · obtain ⟨s, hstep⟩ : ∃ s, c.perform ⟨avgReal, call⟩ = c.withState cell s := by
      rcases h with ⟨-, -, h⟩ | ⟨-, -, h⟩
      · exact ⟨_, h⟩
      · exact ⟨_, h⟩
    rw [hstep]
    refine (hclear _).trans (Eq.trans ?_ (hclear c).symm)
    rw [hcell]
    rfl

/-- **Steps that fail, of all aggregates.**  Take any callbacks.  Of an aggregate of the catalog but `avg_real`,
and but those that follow scripts, in any context: in a run of the callbacks a step of a group that fails
leaves the context as it was, so the other callbacks meet what they would meet without the steps that failed.
Of `avg_real` a step that fails in the run leaves the context as it was if there is no state.  Else it fails
for a value that would be counted above the greatest number or below zero, and then the value is in the sum,
until the next group is begun. -/
theorem failed_steps (calls : List Call) :
    (∀ outside, ∀ f ∈ Catalog.functions outside, f.aggregate = true → (∀ s ∈ Scripted.all, s.name ∉ f.names) →
      "avg_real" ∉ f.names → ∀ (script : Script) (c : Context f.State),
        let steps := calls.map (Step.mk (f.code script))
        (∀ v ∈ c.visits steps, v.1.fails v.2 = true → v.1.perform v.2 = v.1)
          ∧ c.visits (c.succeeding steps) = (c.visits steps).filter (fun v => !v.1.fails v.2)
          ∧ c.performAll (c.succeeding steps) = c.performAll steps)
    ∧ ∀ c : Context Counted, ∀ v ∈ c.visits (calls.map (Step.mk avgReal)), v.1.fails v.2 = true →
      ((v.1.cell = none ∧ v.1.perform v.2 = v.1)
        ∨ ∃ cell args flags x, v.1.cell = some cell ∧ Argument.realAt? args 0 = some x
          ∧ (v.2.call = .add args flags ∧ cell.state.count.toNat + 1 = UInt64.size
              ∧ v.1.perform v.2 = v.1.withState cell { cell.state with sum := cell.state.sum + x }
            ∨ v.2.call = .remove args flags ∧ cell.state.count = 0
              ∧ v.1.perform v.2 = v.1.withState cell { cell.state with sum := cell.state.sum - x }))
      ∧ ∀ flags, (v.1.perform v.2).perform ⟨avgReal, .clear flags⟩
          = v.1.perform ⟨avgReal, .clear flags⟩ := by
  constructor
  · intro outside f hf hgroups hscripted hname script c steps
    have hcode := Catalog.changesLast_of_mem hf hgroups hscripted hname script
    have hsteps : ∀ step ∈ steps, step.code.ChangesLast := by
      intro step hstep
      obtain ⟨call, -, rfl⟩ := List.mem_map.1 hstep
      exact hcode
    refine ⟨fun v hv hfails => ?_, c.visits_succeeding hsteps⟩
    exact v.1.perform_of_fails (hsteps _ (mem_of_mem_visits hv)) hfails
  · rintro c ⟨d, step⟩ hv hfails
    obtain ⟨call, -, rfl⟩ := List.mem_map.1 (mem_of_mem_visits hv)
    exact ⟨perform_avgReal_of_fails hfails, clear_of_fails hfails⟩

/-- An `avg2` that overflows between two rows, and an `avg_real` from which more is taken than there is. -/
theorem failed_steps_avg2 :
    let row : Int64 → List Argument := fun n =>
      [(⟨.int (some n), "n", false⟩ : Sample).place, (⟨.real (some 0), "x", false⟩ : Sample).place]
    let c : Context Weighted := Context.fresh.perform ⟨avg2, .init (row 0)⟩
    let calls : List Call :=
      [.add (row 9223372036854775807) .clear, .add (row 1) .clear, .remove (row 2) .clear]
    let steps := calls.map (Step.mk avg2)
    let d : Context Counted := Context.fresh.perform ⟨avgReal, .init []⟩
    let one : Argument := (⟨.real (some ⟨0x3FF0000000000000⟩), "x", false⟩ : Sample).place
    (c.succeeding steps).map Step.call
        = [.add (row 9223372036854775807) .clear, .remove (row 2) .clear]
      ∧ c.performAll (c.succeeding steps) = c.performAll steps
      ∧ d.fails ⟨avgReal, .remove [one] .clear⟩ = true
      ∧ (d.perform ⟨avgReal, .remove [one] .clear⟩).perform ⟨avgReal, .clear .clear⟩ = d := by
  intro row c calls steps d one
  have hf : Registered.grouping ["avg2"] "udf_examples::avg2::Avg2" avg2 true
      ∈ Catalog.functions default := List.mem_iff_getElem.2 ⟨8, by decide, rfl⟩
  have hrun := (failed_steps calls).1 default _ hf rfl (by decide) (by decide) .idle c
  have hfails : d.fails ⟨avgReal, .remove [one] .clear⟩ = true := by decide +kernel
  have hclear := ((failed_steps [.remove [one] .clear]).2 d _ (.head _) hfails).2 .clear
  exact ⟨by decide +kernel, hrun.2.2, hfails, hclear.trans (by decide +kernel)⟩

/-- **A failed step that is not undone:** one is taken out of a new group and refused; when it is then added,
their average is zero. -/
theorem failed_remove_is_not_undone :
    let one : Argument := (⟨.real (some ⟨0x3FF0000000000000⟩), "x", false⟩ : Sample).place
    let c : Context Counted := Context.fresh.perform ⟨avgReal, .init [one]⟩
    let remove : Step Counted := ⟨avgReal, .remove [one] .clear⟩
    let add : Step Counted := ⟨avgReal, .add [one] .clear⟩
    c.fails remove = true ∧ c.perform remove ≠ c
      ∧ ((c.performAll [remove, add]).process avgReal [one] .clear ⟨none, 0⟩).returned = .real 0
      ∧ ((c.performAll [add]).process avgReal [one] .clear ⟨none, 0⟩).returned
        = .real ⟨0x3FF0000000000000⟩ := by
  decide +kernel

end Context
end Loadable
