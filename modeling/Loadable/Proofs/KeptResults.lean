/-
# What is kept until the next result

A string that was made for a call is kept beside the state, for the server may go on reading it where it
lies.  Whatever callbacks come, what is kept changes in three places only (`Context.writes?`): a
successful `init` begins with nothing, `deinit` takes all away, and a call for a value that ends well puts
its own string there, or nothing for NULL.  All others leave it alone, however they end
(`Context.stash_perform`), so after every run it is what was written last (`Context.stash_performAll`).

So the string of the last value that a function returned is in its place (`Context.kept_until_replaced`),
and one that is read where it lies stays until the next value or `deinit`.
-/

import Loadable.Functions.Witnesses
import Loadable.Proofs.Initialization
import Loadable.Proofs.Lifetime
import Loadable.Proofs.Ownership
import Loadable.Proofs.StringResults
import Mathlib.Data.List.Basic

namespace Loadable

/-- What an owned string leaves kept is the string, and nothing for NULL. -/
theorem Verdict.stash_ofOutcome_ok {r : Returns} (h : r.carrier = .owned) (v : r.Value)
    (kept : Option Bytes) :
    (ofOutcome r (.ok v)).stash r.carrier kept = r.bytes? v := by
  obtain ⟨carrier, optional⟩ := r
  obtain rfl : carrier = .owned := h
  unfold Returns.bytes?
  rw [ofOutcome]
  cases Returns.toOption ⟨.owned, optional⟩ v <;> rfl

namespace Context

variable {σ : Type} (c : Context σ)

/-- What is kept beside the state. -/
def stash : Option Bytes := c.cell.bind Cell.stash

/-- The value that a callback returns, if it is a call for one whose code ends well: its bytes, none of
NULL. -/
def gives? (step : Step σ) : Option (Option Bytes) :=
  match step.call, c.cell with
  | .process args flags _, some cell =>
    match (step.code.process cell.state c.settings args flags.code?).outcome with
    | .ok v => some (step.code.returns.bytes? v)
    | _ => none
  | _, _ => none

/-- What a callback writes into the place beside the state, if it does. -/
def writes? (step : Step σ) : Option (Option Bytes) :=
  match step.call with
  | .init _ => if c.makes step then some none else none
  | .deinit => some none
  | _ => c.gives? step

/-! ### One callback -/

theorem stash_init (r : Routine σ) (args : List Argument) :
    (c.init r args).context.stash = if (c.init r args).message.isNone then none else c.stash := by
  cases htypes : Argument.typeError? args with
  | some e =>
    rw [c.init_refused r args htypes]
    rfl
  | none =>
    rw [c.init_checked r args (Argument.typeError?_eq_none_iff.1 htypes), stash, stash]
    cases hm : (c.initWith args (r.init (c.preparation r args) args)).message with
    | none =>
      obtain ⟨state, -, hcell⟩ := c.initWith_made args _ hm
      rw [hcell]
      rfl
    | some m =>
      rw [(c.initWith_failed args _ (by rw [hm]; rfl)).1]
      rfl

theorem stash_stepWith (part : Stage) (code : σ → Option Code → Run σ Code Unit) (flags : Flags) :
    (stepWith part code c flags).context.stash = c.stash := by
  rw [stash, context_stepWith, stash]
  cases h : c.cell with
  | none => exact congrArg (Option.bind · Cell.stash) h
  | some cell => rfl

theorem stash_process {r : Routine σ} (hr : r.returns.carrier = .owned) (args : List Argument)
    (flags : Flags) (area : ResultArea) :
    (c.process r args flags area).context.stash
      = (c.gives? ⟨r, .process args flags area⟩).getD c.stash := by
  unfold gives?
  dsimp only
  cases hcell : c.cell with
  | none =>
    rw [process_unprepared r c args flags area hcell]
    rfl
  | some cell =>
    have hkept : c.stash = cell.stash := by rw [stash, hcell]; rfl
    rw [process_prepared r c args flags area hcell, hkept]
    dsimp only [stash, Option.bind_some]
    cases (r.process cell.state c.settings args flags.code?).outcome with
    | ok v => exact Verdict.stash_ofOutcome_ok hr v cell.stash
    | err e => rfl
    | panic p => rfl

/-- **A callback leaves what is kept alone,** unless it writes there. -/
theorem stash_perform {step : Step σ} (h : step.code.returns.carrier = .owned) :
    (c.perform step).stash = (c.writes? step).getD c.stash := by
  obtain ⟨code, call⟩ := step
  cases call with
  | init args =>
    rw [perform, c.stash_init code args, writes?, makes]
    by_cases hm : (c.init code args).message.isNone = true
    · rw [if_pos hm, if_pos hm]
      rfl
    · rw [if_neg hm, if_neg hm]
      rfl
  | clear flags => exact c.stash_stepWith ..
  | add args flags => exact c.stash_stepWith ..
  | remove args flags => exact c.stash_stepWith ..
  | process args flags area => exact c.stash_process h args flags area
  | deinit =>
    unfold perform deinit stash writes?
    cases hcell : c.cell with
    | none => exact congrArg (Option.bind · Cell.stash) hcell
    | some cell => rfl

/-! ### Runs of callbacks -/

/-- What a run writes into the place beside the state, one after the other. -/
def writings (steps : List (Step σ)) : List (Option Bytes) :=
  (c.visits steps).filterMap fun v => v.1.writes? v.2

@[simp] theorem writings_snoc (steps : List (Step σ)) (step : Step σ) :
    c.writings (steps ++ [step])
      = c.writings steps ++ ((c.performAll steps).writes? step).toList := by
  rw [writings, visits_snoc, List.filterMap_append]
  cases hw : (c.performAll steps).writes? step <;> simp [writings, hw]

/-- **What is kept after a run** is what was written last, or what was kept before. -/
theorem stash_performAll {steps : List (Step σ)}
    (h : ∀ step ∈ steps, step.code.returns.carrier = .owned) :
    (c.performAll steps).stash = (c.writings steps).getLast?.getD c.stash := by
  induction steps using List.reverseRecOn with
  | nil => rfl
  | append_singleton steps step ih =>
    have hrest := ih fun s hs => h s (List.mem_append_left _ hs)
    rw [performAll_snoc, stash_perform _ (h step (by simp)), hrest, writings_snoc]
    cases (c.performAll steps).writes? step <;> simp

/-- The values that a run of callbacks returns. -/
def values (steps : List (Step σ)) : List (Option Bytes) :=
  (c.visits steps).filterMap fun v => v.1.gives? v.2

/-- A run of callbacks in which no state is made and none given up. -/
def Lasts (steps : List (Step σ)) : Prop :=
  ∀ v ∈ c.visits steps, v.1.makes v.2 = false ∧ v.2.call ≠ .deinit

instance (steps : List (Step σ)) : Decidable (c.Lasts steps) :=
  inferInstanceAs (Decidable (∀ v ∈ c.visits steps, _))

theorem writes?_of_makes {step : Step σ} (h : c.makes step = true) : c.writes? step = some none := by
  obtain ⟨code, call⟩ := step
  cases call with
  | init args => exact if_pos h
  | _ => cases h

theorem writes?_eq_gives? {step : Step σ} (hmakes : c.makes step = false)
    (hcall : step.call ≠ .deinit) : c.writes? step = c.gives? step := by
  obtain ⟨code, call⟩ := step
  cases call with
  | init args => exact if_neg (Bool.eq_false_iff.1 hmakes)
  | deinit => exact absurd rfl hcall
  | _ => rfl

variable {c}

/-- While a state lasts, only values are written. -/
theorem Lasts.writings_eq {steps : List (Step σ)} (h : c.Lasts steps) :
    c.writings steps = c.values steps :=
  List.filterMap_congr fun v hv => v.1.writes?_eq_gives? (h v hv).1 (h v hv).2

theorem Lasts.hasState {steps : List (Step σ)} (h : c.Lasts steps) (hstate : c.hasState = true) :
    (c.performAll steps).hasState = true := by
  induction steps generalizing c with
  | nil => exact hstate
  | cons step steps ih =>
    have hcall := (h (c, step) List.mem_cons_self).2
    refine ih (c := c.perform step) (fun v hv => h v (List.mem_cons_of_mem _ hv)) ?_
    rw [hasState_perform, hstate, decide_eq_true hcall]
    exact Bool.or_true _

/-- **The bytes of a string that a function made stay where they are.**  Of functions that make their
strings anew, with any code and in any context: a callback that is no successful `init`, no `deinit` and no
call for a value that ends well leaves what is kept alone, however it ends.  After a successful `init`, and
while no other makes a state and no `deinit` comes, what is kept is the last value, and nothing if that was
NULL or there was none.  So a string that is handed out where it lies is kept until the next value, or the
end of the state. -/
theorem kept_until_replaced {σ : Type} (c : Context σ) :
    (∀ step : Step σ, step.code.returns.carrier = .owned → c.makes step = false →
      step.call ≠ .deinit → c.gives? step = none → (c.perform step).stash = c.stash)
    ∧ (∀ (first : Step σ) (after : List (Step σ)),
      (∀ step ∈ first :: after, step.code.returns.carrier = .owned) →
      c.makes first = true → (c.perform first).Lasts after →
        (c.performAll (first :: after)).hasState = true
          ∧ (c.performAll (first :: after)).stash = ((c.perform first).values after).getLast?.join)
    ∧ ∀ (code : Routine σ) (args : List Argument) (flags : Flags) (area : ResultArea) (bs : Bytes)
      (after : List (Step σ)), code.returns.carrier = .owned →
      (∀ step ∈ after, step.code.returns.carrier = .owned) →
      (c.process code args flags area).returned = .string (.source bs) →
      (c.process code args flags area).context.Lasts after →
      (c.process code args flags area).context.values after = [] →
        ((c.process code args flags area).context.performAll after).stash = some bs := by
  refine ⟨?_, ?_, ?_⟩
  · intro step hcarrier hmakes hcall hgives
    rw [c.stash_perform hcarrier, c.writes?_eq_gives? hmakes hcall, hgives]
    rfl
  · intro first after hcarrier hmakes hlasts
    obtain ⟨hfirst, hafter⟩ := List.forall_mem_cons.1 hcarrier
    have hstate : (c.perform first).hasState = true := by
      rw [hasState_perform, hmakes]
      exact Bool.true_or _
    have hnone : (c.perform first).stash = none := by
      rw [c.stash_perform hfirst, c.writes?_of_makes hmakes]
      rfl
    refine ⟨hlasts.hasState hstate, ?_⟩
    have hrun := (c.perform first).stash_performAll hafter
    rw [hlasts.writings_eq, hnone] at hrun
    refine hrun.trans ?_
    cases ((c.perform first).values after).getLast? <;> rfl
  · intro code args flags area bs after hcode hafter hsource hlasts hvalues
    have hkept : (c.process code args flags area).context.stash = some bs :=
      (c.kept_of_source hsource).resolve_left (by rw [hcode]; decide)
    rw [stash_performAll _ hafter, hlasts.writings_eq, hvalues, hkept]
    rfl

/-- The text of five is kept while a row and another value panic at zero. -/
theorem kept_until_replaced_volatile :
    let number : UInt8 → Argument := fun n => ⟨2, some [n, 0, 0, 0, 0, 0, 0, 0], 8, 0, none, 0⟩
    let first : Step Unit := ⟨Functions.volatile, .init []⟩
    let c : Context Unit := Context.fresh.perform first
    let after : List (Step Unit) :=
      [⟨Functions.volatile, .add [number 0] .clear⟩,
        ⟨Functions.volatile, .process [number 0] .clear ⟨none, 0⟩⟩]
    let five : ProcessReply Unit := c.process Functions.volatile [number 5] .clear ⟨none, 0⟩
    five.returned = .string (.source (Utf8.encode "5"))
      ∧ (five.context.performAll after).stash = some (Utf8.encode "5")
      ∧ (c.performAll after).hasState = true ∧ (c.performAll after).stash = none
      ∧ (c.perform ⟨Functions.volatile, .add [number 0] .clear⟩).stash = c.stash := by
  intro number first c after five
  have hafter : ∀ step ∈ after, step.code.returns.carrier = .owned :=
    List.forall_mem_cons.2 ⟨rfl, List.forall_mem_singleton.2 rfl⟩
  have hsource : five.returned = .string (.source (Utf8.encode "5")) := by decide +kernel
  have hlater := (kept_until_replaced c).2.2 Functions.volatile [number 5] .clear ⟨none, 0⟩ _ after
    rfl hafter hsource (by decide +kernel) (by decide +kernel)
  have hsince := (kept_until_replaced (Context.fresh (σ := Unit))).2.1 first after
    (List.forall_mem_cons.2 ⟨rfl, hafter⟩) rfl (by decide +kernel)
  exact ⟨hsource, hlater, hsince.1, hsince.2.trans (by decide +kernel),
    (kept_until_replaced c).1 _ rfl rfl (by decide) (by decide +kernel)⟩

end Context
end Loadable
