/-
# Calls on one context

The server keeps a context per use of a function: its settings, and the function's state from a
successful `init` to `deinit`.  This module says what each callback does with it, whatever the
function's code does: panics are caught, errors become flags or a message, and without a state the
code is not run.

Each of `init`, `deinit`, `clear`, `add` and `remove` is one call.
-/

import Loadable.Routine

namespace Loadable

/-- A function's state, and the last string it made if the server may still read it. -/
structure Cell (σ : Type) where
  state : σ
  stash : Option Bytes
  deriving DecidableEq, Repr

/-- The context of one use of a function. -/
structure Context (σ : Type) where
  settings : Settings
  cell : Option (Cell σ)
  deriving DecidableEq, Repr

/-- The two flags handed to a call, `none` for a null pointer. -/
structure Flags where
  isNull : Option UInt8
  error : Option UInt8
  deriving DecidableEq, Repr

namespace Flags

/-- Both flags clear. -/
def clear : Flags := ⟨some 0, some 0⟩

def setNull (f : Flags) : Flags := { f with isNull := f.isNull.map fun _ => 1 }

def setError (f : Flags) (code : UInt8) : Flags := { f with error := f.error.map fun _ => code }

/-- The error that the code is told of. -/
def code? (f : Flags) : Option Code := f.error.bind Code.ofByte?

end Flags

/-- The log entry for a panic in a part of a function. -/
def panicked (part : String) (p : Panic) : Event :=
  .logged .critical (part ++ " function panicked: " ++ p.message)

/-- The log entry for a call without a state. -/
def withoutInit (part : String) : Event :=
  .logged .error (part ++ " called without a successful init")

/-- What `init` leaves: the tags of the arguments may have changed; a message means failure. -/
structure InitReply (σ : Type) where
  context : Context σ
  args : List Argument
  message : Option String
  events : List Event

/-- What a step of an aggregate leaves. -/
structure StepReply (σ : Type) where
  context : Context σ
  flags : Flags
  events : List Event

namespace Context

variable {σ : Type}

/-- A context that was not used yet. -/
def fresh : Context σ := ⟨Settings.empty, none⟩

/-- Whether a state is held. -/
def hasState (c : Context σ) : Bool := c.cell.isSome

/-- What `init` starts from. -/
def preparation (r : Routine σ) (c : Context σ) (args : List Argument) : Preparation :=
  ⟨if r.returns.optional then c.settings.set (.maybeNull true) else c.settings,
    Wishes.none args.length⟩

/-- What `init` leaves after a run of its code.  Only a success writes the conversions that were asked
for.  A state from before is replaced, and not given up. -/
def initWith (c : Context σ) (args : List Argument) (run : Run Preparation String σ) :
    InitReply σ :=
  let kept : Context σ := { c with settings := run.state.settings }
  match run.outcome with
  | .ok state =>
    ⟨{ kept with cell := some ⟨state, none⟩ }, run.state.wishes.grant args, none, run.events⟩
  | .err text => ⟨kept, args, some text, run.events⟩
  | .panic p =>
    ⟨kept, args, some "(critical) init function panicked", run.events ++ [panicked "init" p]⟩

/-- Make the state.  The types of the arguments are checked first. -/
def init (r : Routine σ) (c : Context σ) (args : List Argument) : InitReply σ :=
  match Argument.typeError? args with
  | some e => ⟨c, args, some e.message, []⟩
  | none => c.initWith args (r.init (c.preparation r args) args)

/-- Give the state up, if there is one. -/
def deinit (r : Routine σ) (c : Context σ) : Context σ × List Event :=
  match c.cell with
  | none => (c, [])
  | some cell =>
    let run := r.drop cell.state
    ({ c with cell := none },
      match run.outcome with
      | .panic p => run.events ++ [panicked "deinit" p]
      | .ok _ => run.events)

/-- Run a step of an aggregate on the state; an error or a panic becomes the error flag. -/
def stepWith (part : Stage) (code : σ → Option Code → Run σ Code Unit) (c : Context σ)
    (flags : Flags) : StepReply σ :=
  match c.cell with
  | none => ⟨c, flags.setError 1, [withoutInit part.name]⟩
  | some cell =>
    let run := code cell.state flags.code?
    let kept : Context σ := { c with cell := some { cell with state := run.state } }
    match run.outcome with
    | .ok _ => ⟨kept, flags, run.events⟩
    | .err e => ⟨kept, flags.setError e, run.events⟩
    | .panic p => ⟨kept, flags.setError 1, run.events ++ [panicked part.name p]⟩

/-- Start a new group. -/
def clear (r : Routine σ) (c : Context σ) (flags : Flags) : StepReply σ :=
  stepWith .clear (fun s e => r.clear s c.settings e) c flags

/-- Fold a row into the group. -/
def add (r : Routine σ) (c : Context σ) (args : List Argument) (flags : Flags) : StepReply σ :=
  stepWith .add (fun s e => r.add s c.settings args e) c flags

/-- Take a row out of the group. -/
def remove (r : Routine σ) (c : Context σ) (args : List Argument) (flags : Flags) : StepReply σ :=
  stepWith .remove (fun s e => r.remove s c.settings args e) c flags

end Context
end Loadable
