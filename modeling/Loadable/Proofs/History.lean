/-
# Histories of a session

A session is driven by operations, in any order and number.  `Session.perform` is one of them as a
step, `performAll` a whole history.  Within a statement, between its `init` and its `deinit`, nothing
changes that later calls build on: `Kept` names it, one lemma for each operation says so, and
`kept_performAll` says so of every history without a `deinit`.
-/

import Loadable.Proofs.Protocol
import Loadable.Session

namespace Loadable

/-- What a user of a session may ask of it. -/
inductive Operation where
  | init (items : List Sample)
  | process (row : List Datum)
  | begin
  | add (row : List Datum)
  | remove (row : List Datum)
  | finish
  | group (rows : List (List Datum))
  | deinit
  | run (items : List Sample) (rows : List (List Datum))
  | expect (rows : List (List Datum)) (expected : List Output)
  | configure (change : Settings.Change)
  deriving DecidableEq, Repr

/-- Whether an operation stays within a statement: it neither begins nor ends one. -/
def Operation.within : Operation → Bool
  | init _ => false
  | deinit => false
  | run _ _ => false
  | _ => true

/-- What an argument keeps from row to row: the text it was written as and whether it may be NULL. -/
def Sample.label (item : Sample) : String × Bool := (item.writtenAs, item.maybeNull)

/-! ### Steps of a group keep a state in its place -/

namespace Context

variable {σ : Type} (part : Stage) (code : σ → Option Code → Run σ Code Unit) (c : Context σ)
  (flags : Flags)

@[simp] theorem hasState_stepWith :
    (stepWith part code c flags).context.hasState = c.hasState := by
  unfold stepWith hasState
  cases h : c.cell with
  | none => exact congrArg Option.isSome h
  | some cell =>
    dsimp only
    cases (code cell.state flags.code?).outcome <;> rfl

@[simp] theorem settings_stepWith :
    (stepWith part code c flags).context.settings = c.settings := by
  unfold stepWith
  cases c.cell with
  | none => rfl
  | some cell =>
    dsimp only
    cases (code cell.state flags.code?).outcome <;> rfl

variable (r : Routine σ) (args : List Argument)

@[simp] theorem hasState_clear : (c.clear r flags).context.hasState = c.hasState :=
  hasState_stepWith ..

@[simp] theorem hasState_add : (c.add r args flags).context.hasState = c.hasState :=
  hasState_stepWith ..

@[simp] theorem hasState_remove : (c.remove r args flags).context.hasState = c.hasState :=
  hasState_stepWith ..

@[simp] theorem settings_deinit : (c.deinit r).1.settings = c.settings := by
  unfold deinit
  cases c.cell <;> rfl

end Context

/-- What holds of the session after an operation, and is kept by the one that goes on, holds after both. -/
theorem Reply.session_andThen {σ α β : Type} {P : Session σ → Prop} {r : Reply σ α}
    {next : α → Session σ → Reply σ β} (h : P r.session)
    (hnext : ∀ a t, P t → P (next a t).session) : P (r.andThen next).session := by
  unfold andThen
  cases r.result with
  | error e => exact h
  | ok a => exact hnext a r.session h

namespace Session

variable {σ α β : Type}

/-- The session after an operation, be it refused or not. -/
def perform (s : Session σ) : Operation → Session σ
  | .init items => (s.init items).session
  | .process row => (s.process row).session
  | .begin => s.begin.session
  | .add row => (s.add row).session
  | .remove row => (s.remove row).session
  | .finish => s.finish.session
  | .group rows => (s.group rows).session
  | .deinit => s.deinit.session
  | .run items rows => (s.run items rows).session
  | .expect rows expected => (s.expect rows expected).session
  | .configure change => (s.configure change).session

/-- The session after a history. -/
def performAll (s : Session σ) (ops : List Operation) : Session σ := ops.foldl perform s

theorem performAll_snoc (s : Session σ) (ops : List Operation) (op : Operation) :
    s.performAll (ops ++ [op]) = (s.performAll ops).perform op := by
  rw [performAll, List.foldl_append]
  rfl

/-- What the arguments keep from row to row. -/
def labels (s : Session σ) : List (String × Bool) := s.items.map Sample.label

/-- What the operations within a statement leave alone. -/
structure Kept (s t : Session σ) : Prop where
  routine : t.routine = s.routine
  symbols : t.symbols = s.symbols
  initialized : t.initialized = s.initialized
  types : t.types = s.types
  hasState : t.hasState = s.hasState
  labels : s.items.length = s.types.length → t.labels = s.labels

namespace Kept

variable {s t u : Session σ}

theorem refl (s : Session σ) : Kept s s := ⟨rfl, rfl, rfl, rfl, rfl, fun _ => rfl⟩

/-- The number of arguments is kept with their labels. -/
theorem length_items (h : Kept s t) (hs : s.items.length = s.types.length) :
    t.items.length = t.types.length := by
  have hlen := congrArg List.length (h.labels hs)
  rw [Session.labels, Session.labels, List.length_map, List.length_map] at hlen
  rw [hlen, hs, h.types]

theorem trans (h : Kept s t) (h' : Kept t u) : Kept s u where
  routine := h'.routine.trans h.routine
  symbols := h'.symbols.trans h.symbols
  initialized := h'.initialized.trans h.initialized
  types := h'.types.trans h.types
  hasState := h'.hasState.trans h.hasState
  labels hs := (h'.labels (h.length_items hs)).trans (h.labels hs)

/-- One operation after another keeps what both keep. -/
theorem andThen {r : Reply σ α} {next : α → Session σ → Reply σ β} (h : Kept s r.session)
    (hnext : ∀ a t, Kept t (next a t).session) : Kept s (r.andThen next).session :=
  Reply.session_andThen h fun a t ht => ht.trans (hnext a t)

theorem whenInitialized {next : Reply σ α} (h : Kept s next.session) :
    Kept s (s.whenInitialized next).session := by
  unfold Session.whenInitialized
  split
  · exact h
  · exact refl s

end Kept

/-! ### Each operation -/

variable (s : Session σ)

theorem labels_castItems {items : List Sample} {types : List SqlType}
    (h : items.length = types.length) :
    (castItems items types).map Sample.label = items.map Sample.label := by
  refine List.ext_getElem ?_ fun i hi hi' => ?_
  · simp [castItems, h]
  · simp [castItems, Sample.label]

/-- A row that fits changes only the values of the arguments. -/
theorem kept_withRow {row : List Datum} (h : row.length = s.types.length) :
    Kept s (s.withRow row) where
  routine := rfl
  symbols := rfl
  initialized := rfl
  types := rfl
  hasState := rfl
  labels hs := by
    have hlen : (s.items.zipWith (fun item value => { item with value }) row).length
        = s.types.length := by simp [hs, h]
    rw [labels, withRow, labels_castItems hlen]
    refine List.ext_getElem ?_ fun i hi hi' => ?_
    · simp [labels, hs, h]
    · simp [labels, Sample.label]

theorem kept_onRow {row : List Datum} {next : Session σ → Reply σ α}
    (hnext : ∀ t, Kept t (next t).session) : Kept s (s.onRow row next).session := by
  refine Kept.whenInitialized ?_
  by_cases h : row.length = s.types.length
  · rw [if_neg (not_not_intro h)]
    exact (kept_withRow s h).trans (hnext _)
  · rw [if_pos h]
    exact Kept.refl s

/-- A call whose context keeps a state in its place. -/
theorem kept_stepped (kind : CallbackKind) (count : Option Nat) (reply : StepReply σ)
    (h : reply.context.hasState = s.hasState) : Kept s (s.stepped kind count reply).session :=
  ⟨rfl, rfl, rfl, rfl, h, fun _ => rfl⟩

theorem kept_value (error : UInt8) : Kept s (s.value error).session :=
  ⟨rfl, rfl, rfl, rfl, Context.hasState_process .., fun _ => rfl⟩

theorem kept_process (row : List Datum) : Kept s (s.process row).session :=
  kept_onRow s fun t => kept_value t 0

theorem kept_begin : Kept s s.begin.session := by
  refine Kept.whenInitialized ?_
  split
  · exact Kept.refl s
  · refine Kept.andThen (kept_stepped s _ _ _ ?_) fun _ t => Kept.refl t
    exact Context.hasState_clear ..

theorem kept_rowStep (symbol : Option Unit) (missing : Misuse) (call : Session σ → StepReply σ)
    (row : List Datum) (hcall : ∀ t, (call t).context.hasState = t.hasState) :
    Kept s (s.rowStep symbol missing call row).session := by
  unfold rowStep
  split
  · exact Kept.refl s
  · exact kept_onRow s fun t => kept_stepped t _ _ _ (hcall t)

theorem kept_add (row : List Datum) : Kept s (s.add row).session :=
  kept_rowStep s _ _ _ row fun _ => Context.hasState_add ..

theorem kept_remove (row : List Datum) : Kept s (s.remove row).session :=
  kept_rowStep s _ _ _ row fun _ => Context.hasState_remove ..

theorem kept_finish : Kept s s.finish.session := Kept.whenInitialized (kept_value s _)

theorem kept_addAll (rows : List (List Datum)) : Kept s (s.addAll rows).session := by
  induction rows generalizing s with
  | nil => exact Kept.refl s
  | cons row rows ih => exact Kept.andThen (kept_add s row) fun _ t => ih t

theorem kept_group (rows : List (List Datum)) : Kept s (s.group rows).session := by
  refine Kept.andThen (kept_begin s) fun _ t => ?_
  exact Kept.andThen (kept_addAll t rows) fun _ u => kept_finish u

theorem kept_processAll (rows : List (List Datum)) : Kept s (s.processAll rows).session := by
  induction rows generalizing s with
  | nil => exact Kept.refl s
  | cons row rows ih =>
    refine Kept.andThen (kept_process s row) fun _ t => ?_
    exact Kept.andThen (ih t) fun _ u => Kept.refl u

theorem kept_surprises (index : Nat) (rows : List (List Datum × Output)) :
    Kept s (s.surprises index rows).session := by
  induction rows generalizing s index with
  | nil => exact Kept.refl s
  | cons row rows ih =>
    refine Kept.andThen (kept_process s row.1) fun _ t => ?_
    exact Kept.andThen (ih t (index + 1)) fun _ u => Kept.refl u

theorem kept_expect (rows : List (List Datum)) (expected : List Output) :
    Kept s (s.expect rows expected).session := by
  unfold expect
  split
  · exact Kept.refl s
  · refine Kept.andThen (kept_surprises s 0 _) fun lines t => ?_
    split
    · exact Kept.refl t
    · exact Kept.refl t

/-! ### A statement begins and ends -/

/-- `init` calls the function's own, if there is one and no statement is running. -/
theorem init_called {items : List Sample} (h : s.initialized = false)
    (hsym : s.symbols.init.isSome = true) :
    s.init items
      = { s with items }.entered (s.context.init s.routine (items.map Sample.place)) := by
  have hnone : ¬ s.symbols.init.isNone := by simpa [Option.isSome_iff_ne_none] using hsym
  rw [init, if_neg (Bool.eq_false_iff.1 h)]
  dsimp only
  rw [if_neg hnone]
  rfl

/-- What a successful `init` leaves: the types of the values, or those that the function's own `init`
left in the arguments. -/
theorem init_ok {items : List Sample} (h : (s.init items).result = .ok ()) :
    s.initialized = false
      ∧ ((s.symbols.init = none
          ∧ (s.init items).session = { s with items }.prepared (Samples.ownTypes items))
        ∨ (s.symbols.init.isSome = true
          ∧ (s.context.init s.routine (items.map Sample.place)).message = none
          ∧ (s.init items).session
            = { s with
                items, context := (s.context.init s.routine (items.map Sample.place)).context
              }.prepared
                (Samples.typesOf (s.context.init s.routine (items.map Sample.place)).args))) := by
  by_cases hinit : s.initialized = true
  · rw [init, if_pos hinit] at h
    cases h
  have hfalse := Bool.eq_false_iff.2 hinit
  refine ⟨hfalse, ?_⟩
  cases hsym : s.symbols.init with
  | none =>
    refine .inl ⟨rfl, ?_⟩
    rw [init, if_neg hinit]
    simp [hsym, done]
  | some a =>
    rw [s.init_called hfalse (by rw [hsym]; rfl), entered] at h ⊢
    cases hm : (s.context.init s.routine (items.map Sample.place)).message with
    | some m => simp [hm] at h
    | none => exact .inr ⟨rfl, rfl, rfl⟩

/-- Where the library has an `init` for the function, it is what has succeeded. -/
theorem init_own {items : List Sample} (hsym : s.symbols.init.isSome = true)
    (h : (s.init items).result = .ok ()) :
    (s.context.init s.routine (items.map Sample.place)).message = none
      ∧ (s.init items).session.context = (s.context.init s.routine (items.map Sample.place)).context
      ∧ (s.init items).session.types
        = Samples.typesOf (s.context.init s.routine (items.map Sample.place)).args := by
  rcases (s.init_ok h).2 with ⟨hnone, -⟩ | ⟨-, hmessage, hs⟩
  · rw [hnone] at hsym
    cases hsym
  · rw [hs]
    exact ⟨hmessage, rfl, rfl⟩

theorem initialized_init {items : List Sample} (h : (s.init items).result = .ok ()) :
    (s.init items).session.initialized = true := by
  rcases (s.init_ok h).2 with ⟨-, hs⟩ | ⟨-, -, hs⟩
  · rw [hs, prepared]
  · rw [hs, prepared]

/-- `deinit` calls the function's own, if there is one and a statement is running. -/
theorem deinit_called (h : s.initialized = true) (hsym : s.symbols.deinit.isSome = true) :
    s.deinit.session
      = { s with initialized := false, context := (s.context.deinit s.routine).1 } := by
  have hnone : ¬ s.symbols.deinit.isNone := by simpa [Option.isSome_iff_ne_none] using hsym
  rw [deinit, whenInitialized, if_pos h]
  dsimp only
  rw [if_neg hnone]

theorem deinit_refused (h : s.initialized = false) : s.deinit = s.refuse (.notInitialized s.name) := by
  rw [deinit, whenInitialized, if_neg (Bool.eq_false_iff.1 h)]

/-- After `deinit` no statement is running. -/
theorem initialized_deinit : s.deinit.session.initialized = false := by
  by_cases h : s.initialized = true
  · rw [deinit, whenInitialized, if_pos h]
    dsimp only
    split <;> rfl
  · rw [s.deinit_refused (Bool.eq_false_iff.2 h)]
    exact Bool.eq_false_iff.2 h

/-! ### Whole histories -/

theorem kept_perform {op : Operation} (h : op.within = true) : Kept s (s.perform op) := by
  cases op with
  | process row => exact kept_process s row
  | begin => exact kept_begin s
  | add row => exact kept_add s row
  | remove row => exact kept_remove s row
  | finish => exact kept_finish s
  | group rows => exact kept_group s rows
  | expect rows expected => exact kept_expect s rows expected
  | configure change => exact ⟨rfl, rfl, rfl, rfl, rfl, fun _ => rfl⟩
  | init items => cases h
  | deinit => cases h
  | run items rows => cases h

/-- While a statement is running only `deinit` ends it: it cannot be begun anew. -/
theorem kept_of_running (hinit : s.initialized = true) {op : Operation} (h : op ≠ .deinit) :
    Kept s (s.perform op) := by
  cases op with
  | init items =>
    rw [perform, init, if_pos hinit]
    exact Kept.refl s
  | run items rows =>
    rw [perform, run, init, if_pos hinit]
    exact Kept.refl s
  | deinit => exact absurd rfl h
  | _ => exact s.kept_perform rfl

/-- **Until its `deinit`** no history changes the types of a statement's arguments, their texts, or
whether there is a state. -/
theorem kept_performAll (hinit : s.initialized = true) {ops : List Operation}
    (h : ∀ op ∈ ops, op ≠ .deinit) : Kept s (s.performAll ops) := by
  induction ops generalizing s with
  | nil => exact Kept.refl s
  | cons op ops ih =>
    have hop := s.kept_of_running hinit (h op List.mem_cons_self)
    have hrunning := hop.initialized.trans hinit
    exact hop.trans (ih (s.perform op) hrunning fun o ho => h o (List.mem_cons_of_mem _ ho))

end Session
end Loadable
