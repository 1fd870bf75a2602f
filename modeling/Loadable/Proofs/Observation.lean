/-
# Watching a function's code

Whether a function's code ran, and what it was given, cannot be read off the state that a call
leaves.  `Routine.observed` is the same code which also leaves one note for each piece of it that
runs.  Watching changes nothing else: every callback leaves the same but for its events
(`init_observed`, `add_observed` and so on).  So the notes tell of the code as it is: a step of
a group runs it exactly if there is a state (`notes_stepWith`), and giving a state up happens once
(`notes_deinit`).
-/

import Loadable.Handler

namespace Loadable

/-! ### Notes among events -/

namespace Event

@[simp] theorem notes_nil : notes [] = [] := rfl

@[simp] theorem notes_append (es fs : List Event) : notes (es ++ fs) = notes es ++ notes fs := by
  simp [notes]

@[simp] theorem notes_note (n : Note) (es : List Event) : notes (.note n :: es) = n :: notes es :=
  rfl

@[simp] theorem notes_log (e : Log.Entry) (es : List Event) : notes (.log e :: es) = notes es := rfl

@[simp] theorem notes_logged (level : Log.Level) (message : String) (es : List Event) :
    notes (logged level message :: es) = notes es := rfl

@[simp] theorem notes_map_log (entries : List Log.Entry) : notes (entries.map log) = [] := by
  induction entries with
  | nil => rfl
  | cons e entries ih => rw [List.map_cons, notes_log, ih]

end Event

@[simp] theorem notes_panicked (part : String) (p : Panic) :
    Event.notes [panicked part p] = [] := rfl

@[simp] theorem notes_withoutInit (part : String) : Event.notes [withoutInit part] = [] := rfl

/-- What code is told of an error byte: nothing of zero. -/
def Code.told (b : UInt8) : Option UInt8 := if b = 0 then none else some b

theorem Code.map_val_ofByte? (b : UInt8) : (ofByte? b).map Subtype.val = told b := by
  unfold ofByte? told
  by_cases h : b = 0
  · rw [dif_pos h, if_pos h]
    rfl
  · rw [dif_neg h, if_neg h]
    rfl

theorem Flags.map_val_code? (flags : Flags) :
    flags.code?.map Subtype.val = flags.error.bind Code.told := by
  obtain ⟨isNull, error⟩ := flags
  cases error with
  | none => rfl
  | some b => exact Code.map_val_ofByte? b

/-! ### Code with a note -/

/-- The run with a note of it, and of its own events the log entries. -/
def Run.noted {σ ε α : Type} (n : Note) (run : Run σ ε α) : Run σ ε α :=
  { run with events := .note n :: (Event.entries run.events).map .log }

namespace Run

variable {σ ε α : Type} (n : Note) (run : Run σ ε α)

@[simp] theorem state_noted : (run.noted n).state = run.state := rfl

@[simp] theorem outcome_noted : (run.noted n).outcome = run.outcome := rfl

@[simp] theorem notes_noted : Event.notes (run.noted n).events = [n] := by
  rw [noted, Event.notes_note, Event.notes_map_log]

end Run

/-- The note of a call after `init`. -/
def Note.ofCall (stage : Stage) (error : Option Code) (settings : Settings)
    (args : Option (List Argument)) : Note :=
  .called stage 0 (error.map Subtype.val) settings args

/-- The code of a function with a note for each piece of it that runs. -/
def Routine.observed {σ : Type} (r : Routine σ) : Routine σ where
  returns := r.returns
  init p args := (r.init p args).noted (.prepared p.settings args p.wishes)
  process s settings args e :=
    (r.process s settings args e).noted (.ofCall .process e settings (some args))
  clear s settings e := (r.clear s settings e).noted (.ofCall .clear e settings none)
  add s settings args e := (r.add s settings args e).noted (.ofCall .add e settings (some args))
  remove s settings args e :=
    (r.remove s settings args e).noted (.ofCall .remove e settings (some args))
  drop s := (r.drop s).noted (.dropped 0)

namespace Context

variable {σ : Type} (r : Routine σ) (c : Context σ) (args : List Argument) (flags : Flags)

/-! ### The state is made and given up -/

/-- A note changes only the events of `init`. -/
theorem initWith_noted (n : Note) (run : Run Preparation String σ) :
    c.initWith args (run.noted n)
      = { c.initWith args run with events := (c.initWith args (run.noted n)).events } := by
  unfold initWith
  simp only [Run.state_noted, Run.outcome_noted]
  cases run.outcome <;> rfl

/-- `init` lets the note of its code be seen. -/
theorem notes_initWith (n : Note) (run : Run Preparation String σ) :
    Event.notes (c.initWith args (run.noted n)).events = [n] := by
  unfold initWith
  simp only [Run.outcome_noted]
  cases run.outcome with
  | ok state => exact Run.notes_noted n run
  | err text => exact Run.notes_noted n run
  | panic p => rw [Event.notes_append, Run.notes_noted, notes_panicked, List.append_nil]

/-- Watching changes only the events of `init`. -/
theorem init_observed :
    c.init r.observed args
      = { c.init r args with events := (c.init r.observed args).events } := by
  unfold init
  cases Argument.typeError? args with
  | some e => rfl
  | none => exact initWith_noted c args _ _

/-- Watching does not change what `deinit` leaves. -/
theorem fst_deinit_observed : (c.deinit r.observed).1 = (c.deinit r).1 := by
  unfold deinit
  cases c.cell <;> rfl

/-- A state is given up exactly if there is one, be it in a panic. -/
theorem notes_deinit :
    Event.notes (c.deinit r.observed).2 = if c.hasState then [.dropped 0] else [] := by
  unfold deinit hasState
  cases c.cell with
  | none => rfl
  | some cell =>
    simp only [Routine.observed, Run.outcome_noted, Option.isSome_some, if_true]
    split
    · rw [Event.notes_append, Run.notes_noted, notes_panicked, List.append_nil]
    · rw [Run.notes_noted]

/-- `init` runs its code only on arguments whose types are known. -/
theorem notes_init :
    Event.notes (c.init r.observed args).events
      = match Argument.typeError? args with
        | some _ => []
        | none =>
          [.prepared (c.preparation r args).settings args (c.preparation r args).wishes] := by
  unfold init
  cases Argument.typeError? args with
  | some e => rfl
  | none => exact notes_initWith c args _ _

/-! ### Steps of a group -/

section Steps

variable (part : Stage) (code : σ → Option Code → Run σ Code Unit) (note : Option Code → Note)

/-- A note changes only the events of a step. -/
theorem stepWith_noted :
    stepWith part (fun s e => (code s e).noted (note e)) c flags
      = { stepWith part code c flags with
          events := (stepWith part (fun s e => (code s e).noted (note e)) c flags).events } := by
  unfold stepWith
  cases c.cell with
  | none => rfl
  | some cell =>
    simp only [Run.state_noted, Run.outcome_noted]
    cases (code cell.state flags.code?).outcome <;> rfl

/-- A step of a group runs the code exactly if there is a state. -/
theorem notes_stepWith :
    Event.notes (stepWith part (fun s e => (code s e).noted (note e)) c flags).events
      = if c.hasState then [note flags.code?] else [] := by
  unfold stepWith hasState
  cases c.cell with
  | none => rfl
  | some cell =>
    simp only [Run.outcome_noted, Option.isSome_some, if_true]
    split
    · rw [Run.notes_noted]
    · rw [Run.notes_noted]
    · rw [Event.notes_append, Run.notes_noted, notes_panicked, List.append_nil]

end Steps

/-- Watching changes only the events of `clear`. -/
theorem clear_observed :
    c.clear r.observed flags
      = { c.clear r flags with events := (c.clear r.observed flags).events } :=
  stepWith_noted c flags .clear (fun s e => r.clear s c.settings e)
    fun e => .ofCall .clear e c.settings none

/-- Watching changes only the events of `add`. -/
theorem add_observed :
    c.add r.observed args flags
      = { c.add r args flags with events := (c.add r.observed args flags).events } :=
  stepWith_noted c flags .add (fun s e => r.add s c.settings args e)
    fun e => .ofCall .add e c.settings (some args)

/-- Watching changes only the events of `remove`. -/
theorem remove_observed :
    c.remove r.observed args flags
      = { c.remove r args flags with events := (c.remove r.observed args flags).events } :=
  stepWith_noted c flags .remove (fun s e => r.remove s c.settings args e)
    fun e => .ofCall .remove e c.settings (some args)

theorem notes_clear :
    Event.notes (c.clear r.observed flags).events
      = if c.hasState then [.ofCall .clear flags.code? c.settings none] else [] :=
  notes_stepWith c flags .clear (fun s e => r.clear s c.settings e)
    fun e => .ofCall .clear e c.settings none

theorem notes_add :
    Event.notes (c.add r.observed args flags).events
      = if c.hasState then [.ofCall .add flags.code? c.settings (some args)] else [] :=
  notes_stepWith c flags .add (fun s e => r.add s c.settings args e)
    fun e => .ofCall .add e c.settings (some args)

theorem notes_remove :
    Event.notes (c.remove r.observed args flags).events
      = if c.hasState then [.ofCall .remove flags.code? c.settings (some args)] else [] :=
  notes_stepWith c flags .remove (fun s e => r.remove s c.settings args e)
    fun e => .ofCall .remove e c.settings (some args)

end Context
end Loadable
