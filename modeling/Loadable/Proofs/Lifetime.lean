/-
# The life of a state

A state is made by an `init` that succeeds and given up by `deinit`.  `Context.perform` is one callback
on a context, with code of its own, so that it may end in any way; `visits` lists what a run of
callbacks meets.  What one callback does to the state is `hasState_perform`; what it runs is
`notes_cases`.  Two laws follow for every run:

* `hasState_iff`: there is a state exactly if some `init` has succeeded and no `deinit` came after it;
* `conservation`: as many states were made as are given up or still held, if `init` was only called
  where there was none.

A session keeps the two sides of a statement together: `Matched` says that there is a state exactly
within a statement.
-/

import Loadable.Functions.Constants
import Loadable.Proofs.Watching
import Mathlib.Data.List.Induction

namespace Loadable

/-- A callback with what the server hands to it. -/
inductive Call where
  | init (args : List Argument)
  | clear (flags : Flags)
  | add (args : List Argument) (flags : Flags)
  | remove (args : List Argument) (flags : Flags)
  | process (args : List Argument) (flags : Flags) (area : ResultArea)
  | deinit
  deriving DecidableEq, Repr

/-- Whether a call is one of `init`. -/
def Call.isInit : Call → Bool
  | init _ => true
  | _ => false

/-- A callback and the code behind it. -/
structure Step (σ : Type) where
  code : Routine σ
  call : Call

namespace Context

variable {σ : Type}

/-- The context after a callback. -/
def perform (c : Context σ) (step : Step σ) : Context σ :=
  match step.call with
  | .init args => (c.init step.code args).context
  | .clear flags => (c.clear step.code flags).context
  | .add args flags => (c.add step.code args flags).context
  | .remove args flags => (c.remove step.code args flags).context
  | .process args flags area => (c.process step.code args flags area).context
  | .deinit => (c.deinit step.code).1

/-- The notes of the code that a callback runs. -/
def notes (c : Context σ) (step : Step σ) : List Note :=
  Event.notes <| match step.call with
    | .init args => (c.init step.code.observed args).events
    | .clear flags => (c.clear step.code.observed flags).events
    | .add args flags => (c.add step.code.observed args flags).events
    | .remove args flags => (c.remove step.code.observed args flags).events
    | .process args flags area => (c.process step.code.observed args flags area).events
    | .deinit => (c.deinit step.code.observed).2

/-- Whether a callback is an `init` that succeeds. -/
def makes (c : Context σ) (step : Step σ) : Bool :=
  match step.call with
  | .init args => (c.init step.code args).message.isNone
  | _ => false

/-- The context after a run of callbacks. -/
def performAll (c : Context σ) (steps : List (Step σ)) : Context σ := steps.foldl perform c

/-- The callbacks of a run, each with the context that it meets. -/
def visits (c : Context σ) : List (Step σ) → List (Context σ × Step σ)
  | [] => []
  | step :: steps => (c, step) :: visits (c.perform step) steps

/-- How many states a run makes. -/
def made (c : Context σ) (steps : List (Step σ)) : Nat :=
  (c.visits steps).countP fun v => v.1.makes v.2

/-- How often the code that gives a state up runs. -/
def dropped (c : Context σ) (steps : List (Step σ)) : Nat :=
  ((c.visits steps).flatMap fun v => v.1.notes v.2).count (.dropped 0)

/-- How many states are held. -/
def held (c : Context σ) : Nat := if c.hasState then 1 else 0

/-! ### One callback -/

variable (c : Context σ)

/-- `init` succeeds exactly if its arguments have known types and its code ends well, and only a success
changes whether there is a state. -/
theorem hasState_init (r : Routine σ) (args : List Argument) :
    (c.init r args).context.hasState = ((c.init r args).message.isNone || c.hasState) := by
  unfold init
  cases Argument.typeError? args with
  | some e => rfl
  | none =>
    dsimp only
    unfold initWith
    cases (r.init (c.preparation r args) args).outcome <;> rfl

theorem hasState_deinit (r : Routine σ) : (c.deinit r).1.hasState = false := by
  unfold deinit hasState
  cases h : c.cell with
  | none => exact congrArg Option.isSome h
  | some cell => rfl

/-- The context with another state in the place of one. -/
def withState (cell : Cell σ) (s : σ) : Context σ := { c with cell := some { cell with state := s } }

/-- What a step does to a context: its code changes the state, if there is one. -/
theorem context_stepWith (part : Stage) (code : σ → Option Code → Run σ Code Unit) (flags : Flags) :
    (stepWith part code c flags).context
      = c.cell.elim c fun cell => c.withState cell (code cell.state flags.code?).state := by
  unfold stepWith
  cases hcell : c.cell with
  | none => rfl
  | some cell =>
    dsimp only
    cases (code cell.state flags.code?).outcome <;> rfl

/-- A step leaves the state as its code does. -/
theorem cell_stepWith (part : Stage) (code : σ → Option Code → Run σ Code Unit) (flags : Flags)
    {cell : Cell σ} (h : c.cell = some cell) :
    (stepWith part code c flags).context.cell
      = some { cell with state := (code cell.state flags.code?).state } := by
  rw [context_stepWith, h]
  rfl

/-- **What a callback does to the state:** a successful `init` makes one, `deinit` takes it away, and
nothing else touches it. -/
theorem hasState_perform (step : Step σ) :
    (c.perform step).hasState
      = (c.makes step || (c.hasState && decide (step.call ≠ .deinit))) := by
  obtain ⟨code, call⟩ := step
  cases call with
  | init args => simp [perform, makes, hasState_init]
  | clear flags => simp [perform, makes]
  | add args flags => simp [perform, makes]
  | remove args flags => simp [perform, makes]
  | process args flags area => simp [perform, makes]
  | deinit => simp [perform, makes, hasState_deinit]

/-- **What a callback runs:** `init` its own code if anything, `deinit` the code that gives the state up,
and the others one piece of code; these need a state. -/
theorem notes_cases (step : Step σ) :
    (step.call.isInit = true
        ∧ ∀ n ∈ c.notes step, ∃ settings args wishes, n = .prepared settings args wishes)
      ∨ (step.call = .deinit ∧ c.notes step = if c.hasState then [.dropped 0] else [])
      ∨ (step.call ≠ .deinit ∧ ∃ stage error settings args,
          c.notes step = if c.hasState then [.called stage 0 error settings args] else []) := by
  obtain ⟨code, call⟩ := step
  cases call with
  | init args =>
    refine .inl ⟨rfl, fun n hn => ?_⟩
    rw [notes, notes_init] at hn
    cases htypes : Argument.typeError? args with
    | some e => simp [htypes] at hn
    | none =>
      rw [htypes] at hn
      exact ⟨_, _, _, List.mem_singleton.1 hn⟩
  | deinit => exact .inr (.inl ⟨rfl, notes_deinit code c⟩)
  | clear flags => exact .inr (.inr ⟨nofun, _, _, _, _, notes_clear code c flags⟩)
  | add args flags => exact .inr (.inr ⟨nofun, _, _, _, _, notes_add code c args flags⟩)
  | remove args flags => exact .inr (.inr ⟨nofun, _, _, _, _, notes_remove code c args flags⟩)
  | process args flags area =>
    exact .inr (.inr ⟨nofun, _, _, _, _, notes_process code c args flags area⟩)

/-- The code for rows and groups runs only on a state. -/
theorem hasState_of_called {step : Step σ} {stage : Stage} {calls : Nat} {error : Option UInt8}
    {settings : Settings} {args : Option (List Argument)}
    (h : .called stage calls error settings args ∈ c.notes step) : c.hasState = true := by
  by_contra hstate
  rcases c.notes_cases step with ⟨-, hn⟩ | ⟨-, hn⟩ | ⟨-, _, _, _, _, hn⟩
  · obtain ⟨_, _, _, heq⟩ := hn _ h
    cases heq
  · rw [hn, if_neg hstate] at h
    cases h
  · rw [hn, if_neg hstate] at h
    cases h

/-- The code that gives a state up runs only in `deinit`, and once if there is a state. -/
theorem count_dropped (step : Step σ) :
    (c.notes step).count (.dropped 0) = if step.call = .deinit then c.held else 0 := by
  rcases c.notes_cases step with ⟨hcall, hn⟩ | ⟨hcall, hn⟩ | ⟨hcall, _, _, _, _, hn⟩
  · have hne : step.call ≠ .deinit := fun h => by rw [h] at hcall; cases hcall
    rw [if_neg hne, List.count_eq_zero]
    intro hmem
    obtain ⟨_, _, _, heq⟩ := hn _ hmem
    cases heq
  · rw [if_pos hcall, hn, held]
    split <;> rfl
  · rw [if_neg hcall, hn]
    split <;> rfl

theorem isInit_of_makes {step : Step σ} (h : c.makes step = true) : step.call.isInit = true := by
  obtain ⟨code, call⟩ := step
  cases call with
  | init args => rfl
  | _ => cases h

/-- One callback keeps the balance of states, unless `init` is called where there is one already. -/
theorem balance_perform {step : Step σ} (h : step.call.isInit = true → c.hasState = false) :
    (if c.makes step then 1 else 0) + c.held
      = (c.notes step).count (.dropped 0) + (c.perform step).held := by
  rw [count_dropped, held, held, hasState_perform]
  by_cases hmakes : c.makes step = true
  · have hinit := c.isInit_of_makes hmakes
    have hcall : step.call ≠ .deinit := fun hd => by rw [hd] at hinit; cases hinit
    simp [hmakes, h hinit, hcall]
  · by_cases hcall : step.call = .deinit
    · simp [hmakes, hcall]
    · simp [hmakes, hcall]

/-! ### Runs of callbacks -/

theorem performAll_snoc (steps : List (Step σ)) (step : Step σ) :
    c.performAll (steps ++ [step]) = (c.performAll steps).perform step := by
  rw [performAll, List.foldl_append]
  rfl

theorem visits_snoc (steps : List (Step σ)) (step : Step σ) :
    c.visits (steps ++ [step]) = c.visits steps ++ [(c.performAll steps, step)] := by
  induction steps generalizing c with
  | nil => rfl
  | cons first steps ih => exact congrArg ((c, first) :: ·) (ih (c.perform first))

/-- **There is a state exactly if** an `init` has succeeded since the last `deinit`. -/
theorem hasState_iff (h : c.hasState = false) (steps : List (Step σ)) :
    (c.performAll steps).hasState = true
      ↔ ∃ before v after, c.visits steps = before ++ v :: after ∧ v.1.makes v.2 = true
        ∧ ∀ w ∈ after, w.2.call ≠ .deinit := by
  induction steps using List.reverseRecOn with
  | nil =>
    refine ⟨fun hc => absurd (h.symm.trans hc) Bool.false_ne_true, ?_⟩
    rintro ⟨before, v, after, hv, -⟩
    cases before <;> cases hv
  | append_singleton steps step ih =>
    rw [performAll_snoc, visits_snoc, hasState_perform, Bool.or_eq_true, Bool.and_eq_true,
      decide_eq_true_iff]
    constructor
    · rintro (hmakes | ⟨hstate, hcall⟩)
      · refine ⟨c.visits steps, (c.performAll steps, step), [], rfl, hmakes, ?_⟩
        exact fun w hw => absurd hw List.not_mem_nil
      · obtain ⟨before, v, after, hv, hmakes, hafter⟩ := ih.1 hstate
        refine ⟨before, v, after ++ [(c.performAll steps, step)], by rw [hv]; simp, hmakes, ?_⟩
        intro w hw
        rcases List.mem_append.1 hw with hw | hw
        · exact hafter w hw
        · rw [List.mem_singleton.1 hw]
          exact hcall
    · rintro ⟨before, v, after, hv, hmakes, hafter⟩
      -- the last callback is the `init` itself or one that came after it
      rcases List.eq_nil_or_concat after with rfl | ⟨after, w, rfl⟩
      · have hlast := (List.append_inj' hv rfl).2
        rw [List.singleton_inj] at hlast
        rw [← hlast] at hmakes
        exact .inl hmakes
      · have hlast : c.visits steps ++ [(c.performAll steps, step)]
            = (before ++ v :: after) ++ [w] := by simpa using hv
        obtain ⟨hvisits, hw⟩ := List.append_inj' hlast rfl
        have hcall := hafter w (by simp)
        rw [← List.singleton_inj.1 hw] at hcall
        refine .inr ⟨ih.2 ⟨before, v, after, hvisits, hmakes, fun u hu => ?_⟩, hcall⟩
        exact hafter u (by simp [hu])

/-- **States are neither lost nor given up twice:** those made are those given up and the one still
held. -/
theorem conservation {steps : List (Step σ)}
    (h : ∀ v ∈ c.visits steps, v.2.call.isInit = true → v.1.hasState = false) :
    c.made steps + c.held = c.dropped steps + (c.performAll steps).held := by
  induction steps generalizing c with
  | nil => exact Nat.zero_add c.held |>.trans (Nat.zero_add c.held).symm
  | cons step steps ih =>
    have hstep : (if c.makes step then 1 else 0) + c.held
        = (c.notes step).count (.dropped 0) + (c.perform step).held :=
      c.balance_perform (h (c, step) List.mem_cons_self)
    have hrest := ih (c.perform step) fun v hv => h v (List.mem_cons_of_mem _ hv)
    have hmade : c.made (step :: steps)
        = (c.perform step).made steps + if c.makes step then 1 else 0 := List.countP_cons
    have hdropped : c.dropped (step :: steps)
        = (c.notes step).count (.dropped 0) + (c.perform step).dropped steps := by
      rw [dropped, visits, List.flatMap_cons, List.count_append]
      rfl
    have hlast : c.performAll (step :: steps) = (c.perform step).performAll steps := rfl
    rw [hmade, hdropped, hlast]
    omega

end Context

/-! ### Sessions -/

namespace Session

variable {σ α β : Type}

/-- A session whose function exports both ends of a statement, with a state exactly within one. -/
structure Matched (s : Session σ) : Prop where
  init : s.symbols.init.isSome = true
  deinit : s.symbols.deinit.isSome = true
  state : s.hasState = s.initialized

namespace Matched

variable {s t : Session σ}

theorem of_kept (h : Matched s) (hk : Kept s t) : Matched t where
  init := hk.symbols ▸ h.init
  deinit := hk.symbols ▸ h.deinit
  state := hk.hasState.trans (h.state.trans hk.initialized.symm)

theorem andThen {r : Reply σ α} {next : α → Session σ → Reply σ β} (h : Matched r.session)
    (hnext : ∀ a t, Matched t → Matched (next a t).session) :
    Matched (r.andThen next).session := Reply.session_andThen h hnext

/-- `init` makes a state where it begins a statement, and nowhere else. -/
theorem session_init (h : Matched s) (items : List Sample) : Matched (s.init items).session := by
  by_cases hinit : s.initialized = true
  · rw [Session.init, if_pos hinit]
    exact h
  have hfalse := Bool.eq_false_iff.2 hinit
  have hstate : s.context.hasState = false := h.state.trans hfalse
  rw [s.init_called hfalse h.init, entered]
  dsimp only
  have hmade := s.context.hasState_init s.routine (items.map Sample.place)
  rw [hstate, Bool.or_false] at hmade
  cases hm : (s.context.init s.routine (items.map Sample.place)).message with
  | some m =>
    rw [hm] at hmade
    exact ⟨h.init, h.deinit, hmade.trans hfalse.symm⟩
  | none =>
    rw [hm] at hmade
    exact ⟨h.init, h.deinit, hmade⟩

theorem session_deinit (h : Matched s) : Matched s.deinit.session := by
  by_cases hinit : s.initialized = true
  · rw [s.deinit_called hinit h.deinit]
    exact ⟨h.init, h.deinit, s.context.hasState_deinit s.routine⟩
  · rw [s.deinit_refused (Bool.eq_false_iff.2 hinit)]
    exact h

theorem perform (h : Matched s) (op : Operation) : Matched (s.perform op) := by
  cases op with
  | init items => exact h.session_init items
  | deinit => exact h.session_deinit
  | run items rows =>
    refine (h.session_init items).andThen fun _ t ht => ?_
    refine Matched.andThen (ht.of_kept (kept_processAll t rows)) fun outputs u hu => ?_
    exact hu.session_deinit.andThen fun _ v hv => hv
  | _ => exact h.of_kept (kept_perform s rfl)

theorem performAll (h : Matched s) (ops : List Operation) : Matched (s.performAll ops) := by
  induction ops generalizing s with
  | nil => exact h
  | cons op ops ih => exact ih (h.perform op)

end Matched

/-- A new session is not within a statement and has no state. -/
theorem start_ok {routine : Routine σ} {traced : Option Trace.Mode} {lookup : String → Option Unit}
    {name : String} {aggregate : Bool} {returns : Tag} {s : Session σ}
    (h : start routine traced lookup name aggregate returns = .ok s) :
    s.hasState = false ∧ s.initialized = false := by
  unfold start at h
  cases hr : (Symbols.resolve lookup name aggregate returns).2 with
  | error e => simp [hr] at h
  | ok symbols =>
    rw [hr] at h
    cases h
    exact ⟨rfl, rfl⟩

/-- A whole statement that began has ended, whatever its rows did. -/
theorem initialized_run (s : Session σ) {items : List Sample} (rows : List (List Datum))
    (h : (s.init items).result = .ok ()) : (s.run items rows).session.initialized = false := by
  unfold run
  rw [Reply.andThen, h]
  dsimp only
  rw [Reply.andThen, Reply.attempt]
  dsimp only
  -- what is left is `deinit`, and nothing after it
  generalize ((s.init items).session.processAll rows).session = t
  have hend := t.initialized_deinit
  unfold Reply.andThen
  cases t.deinit.result <;> exact hend

/-- **A state is made once and given up once.**  In every run of callbacks, however each of them ends,
with `init` called only where there is no state: there is a state exactly if an `init` has succeeded
since the last `deinit`; code for rows and groups ran only on a state; and the states made are those
given up and the one still held.  A session whose function exports both ends of a statement has a
state exactly within one, after every history; and a whole statement that began has ended. -/
theorem state_lives_from_init_to_deinit {σ : Type} :
    (∀ (c : Context σ) (steps : List (Step σ)), c.hasState = false →
      (∀ v ∈ c.visits steps, v.2.call.isInit = true → v.1.hasState = false) →
      ((c.performAll steps).hasState = true
          ↔ ∃ before v after, c.visits steps = before ++ v :: after ∧ v.1.makes v.2 = true
            ∧ ∀ w ∈ after, w.2.call ≠ .deinit)
        ∧ (∀ v ∈ c.visits steps, ∀ stage calls error settings args,
          .called stage calls error settings args ∈ v.1.notes v.2 → v.1.hasState = true)
        ∧ c.made steps
          = c.dropped steps + if (c.performAll steps).hasState = true then 1 else 0)
    ∧ (∀ (routine : Routine σ) (traced : Option Trace.Mode) (lookup : String → Option Unit)
        (name : String) (aggregate : Bool) (returns : Tag) (s : Session σ),
      start routine traced lookup name aggregate returns = .ok s →
      s.symbols.init.isSome = true → s.symbols.deinit.isSome = true → ∀ ops : List Operation,
        (s.performAll ops).hasState = (s.performAll ops).initialized)
    ∧ ∀ (s : Session σ) (items : List Sample) (rows : List (List Datum)),
      (s.init items).result = .ok () → (s.run items rows).session.initialized = false := by
  refine ⟨?_, ?_, fun s items rows h => s.initialized_run rows h⟩
  · intro c steps hstate hsteps
    refine ⟨c.hasState_iff hstate steps, ?_, ?_⟩
    · intro v _ stage calls error settings args hnote
      exact v.1.hasState_of_called hnote
    · have hbalance := c.conservation hsteps
      have hnone : c.held = 0 := by rw [Context.held, hstate]; rfl
      rw [hnone] at hbalance
      exact hbalance
  · intro routine traced lookup name aggregate returns s hs hinit hdeinit ops
    obtain ⟨hstate, hnew⟩ := start_ok hs
    have hmatched : Matched s := ⟨hinit, hdeinit, hstate.trans hnew.symm⟩
    exact (hmatched.performAll ops).state

/-- A function without arguments, from `init` to `deinit`, and a session with it. -/
theorem state_lives_from_init_to_deinit_emptyCall :
    let c : Context Unit := .fresh
    let steps : List (Step Unit) :=
      [⟨Functions.emptyCall, .init []⟩, ⟨Functions.emptyCall, .process [] .clear ⟨none, 0⟩⟩,
        ⟨Functions.emptyCall, .deinit⟩]
    let symbols : Symbols Unit :=
      ⟨"empty_call", false, some (), some (), some ⟨.longlong, ()⟩, none, none, none⟩
    let s : Session Unit := ⟨Functions.emptyCall, none, symbols, .fresh, [], [],
      List.replicate resultSize 0, false, .clear⟩
    c.made steps = c.dropped steps + (if (c.performAll steps).hasState = true then 1 else 0)
      ∧ (s.perform (.init [])).hasState = (s.perform (.init [])).initialized
      ∧ (s.run [] [[], []]).session.initialized = false := by
  intro c steps symbols s
  have hlife := state_lives_from_init_to_deinit (σ := Unit)
  refine ⟨?_, ?_, ?_⟩
  · exact (hlife.1 c steps rfl (by decide)).2.2
  · exact hlife.2.1 Functions.emptyCall none (fun _ => some ()) "empty_call" false .int s rfl rfl rfl
      [.init []]
  · exact hlife.2.2 s [] [[], []] rfl

end Session
end Loadable
