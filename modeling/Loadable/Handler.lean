/-
# Calls for a value

A call for the value of a row or a group goes to one of six handlers: for a number, for bytes of the
function's state and for bytes made for the call, each where NULL cannot be and where it can.  All run
the function's code guarded: without a state it is not run, an error or a panic becomes flags, and
there is no value then.  What makes a value of NULL differs: for a number it is seen behind the guard,
for bytes within it, where the server's memory is at hand.  Bytes made for the call are kept; a value
with bytes of the state ends with the guarded code, before the server reads them.

Arguments are only read; a reply has no place for them.
-/

import Loadable.Context

namespace Loadable

/-- What the call for the value of a row leaves. -/
structure ProcessReply (σ : Type) where
  context : Context σ
  returned : Returned
  flags : Flags
  area : ResultArea
  events : List Event

/-- A function's code for a value, given its state and the error that it is told of. -/
abbrev Valuing (σ V : Type) := σ → Option Code → Run σ Unit V

/-- Go on with the value of a run that ended well. -/
def Run.andThen {σ ε α β : Type} (run : Run σ ε α) (next : α → σ → Run σ ε β) : Run σ ε β :=
  match run.outcome with
  | .ok a =>
    let rest := next a run.state
    ⟨rest.state, rest.outcome, run.events ++ rest.events⟩
  | .err e => ⟨run.state, .err e, run.events⟩
  | .panic p => ⟨run.state, .panic p, run.events⟩

/-- What guarded code works on. -/
structure Workspace (σ : Type) where
  cell : Cell σ
  flags : Flags
  area : ResultArea

namespace Workspace

variable {σ V : Type}

/-- Run a function's code on the state. -/
def run (code : Valuing σ V) (error : Option Code) (w : Workspace σ) :
    Run (Workspace σ) Unit V :=
  let run := code w.cell.state error
  ⟨{ w with cell := { w.cell with state := run.state } }, run.outcome, run.events⟩

/-- Keep bytes beside the state, in the place of those from before. -/
def keep (bytes : Option Bytes) (w : Workspace σ) : Workspace σ :=
  { w with cell := { w.cell with stash := bytes } }

/-- Hand bytes to the server. -/
def give (bytes : Bytes) (w : Workspace σ) : Run (Workspace σ) Unit Pointer :=
  ⟨{ w with area := (w.area.deliver bytes).2 }, .ok (w.area.deliver bytes).1, []⟩

/-- Hand the bytes of a value to the server, and give the value up. -/
def lend (value : Buffer) (w : Workspace σ) : Run (Workspace σ) Unit Pointer :=
  ⟨{ w with area := (w.area.lend value).2 }, .ok (w.area.lend value).1, []⟩

/-- Hand NULL to the server. -/
def giveNull (w : Workspace σ) : Run (Workspace σ) Unit Pointer :=
  ⟨{ w with flags := w.flags.setNull }, .ok .null, []⟩

end Workspace

/-- What guarded code leaves; there is no value where a flag says why. -/
structure Guarded (σ α : Type) where
  context : Context σ
  flags : Flags
  area : ResultArea
  value : Option α
  events : List Event

/-- The reply with what is returned. -/
def Guarded.reply {σ α : Type} (g : Guarded σ α) (returned : Returned) : ProcessReply σ :=
  ⟨g.context, returned, g.flags, g.area, g.events⟩

/-- Run code on the state, if there is one.  An error sets the error flag and a panic both. -/
def Context.guarded {σ α : Type} (c : Context σ) (flags : Flags) (area : ResultArea)
    (code : Option Code → Workspace σ → Run (Workspace σ) Unit α) : Guarded σ α :=
  match c.cell with
  | none => ⟨c, flags.setError 1, area, none, [withoutInit "process"]⟩
  | some cell =>
    let run := code flags.code? ⟨cell, flags, area⟩
    let kept : Context σ := { c with cell := some run.state.cell }
    match run.outcome with
    | .ok v => ⟨kept, run.state.flags, run.state.area, some v, run.events⟩
    | .err () => ⟨kept, run.state.flags.setError 1, run.state.area, none, run.events⟩
    | .panic p =>
      ⟨kept, run.state.flags.setNull.setError 1, run.state.area, none,
        run.events ++ [panicked "process" p]⟩

/-- A way to hand the values of a function's code to the server. -/
abbrev Handler (σ V : Type) :=
  Valuing σ V → Context σ → Flags → ResultArea → ProcessReply σ

namespace Handler

variable {σ P : Type}

/-- A number, `zero` where there is none. -/
def number (returned : P → Returned) (zero : Returned) : Handler σ P := fun code c flags area =>
  let g := c.guarded flags area (Workspace.run code)
  g.reply ((g.value.map returned).getD zero)

/-- A number that may be NULL. -/
def optionalNumber (returned : P → Returned) (zero : Returned) : Handler σ (Option P) :=
  fun code c flags area =>
    let g := c.guarded flags area (Workspace.run code)
    match g.value with
    | some (some v) => g.reply (returned v)
    | some none => { g.reply zero with flags := g.flags.setNull }
    | none => g.reply zero

/-- Bytes of the state. -/
def borrowed : Handler σ Buffer := fun code c flags area =>
  let g := c.guarded flags area fun error w =>
    (w.run code error).andThen fun value w => w.lend value
  g.reply (.string (g.value.getD .null))

/-- Bytes of the state, or NULL. -/
def optionalBorrowed : Handler σ (Option Buffer) := fun code c flags area =>
  let g := c.guarded flags area fun error w =>
    (w.run code error).andThen fun value w =>
      match value with
      | none => w.giveNull
      | some value => w.lend value
  g.reply (.string (g.value.getD .null))

/-- Bytes made for the call, which are kept. -/
def owned : Handler σ Bytes := fun code c flags area =>
  let g := c.guarded flags area fun error w =>
    (w.run code error).andThen fun bytes w => (w.keep (some bytes)).give bytes
  g.reply (.string (g.value.getD .null))

/-- Bytes made for the call, which are kept, or NULL, which leaves nothing kept. -/
def optionalOwned : Handler σ (Option Bytes) := fun code c flags area =>
  let g := c.guarded flags area fun error w =>
    (w.run code error).andThen fun value w =>
      let w := w.keep value
      match w.cell.stash with
      | none => w.giveNull
      | some bytes => w.give bytes
  g.reply (.string (g.value.getD .null))

/-- The handler for what a function returns. -/
def ofReturns : (r : Returns) → Handler σ r.Value
  | ⟨.int, false⟩ => number Returned.int (.zero .int)
  | ⟨.int, true⟩ => optionalNumber Returned.int (.zero .int)
  | ⟨.real, false⟩ => number Returned.real (.zero .real)
  | ⟨.real, true⟩ => optionalNumber Returned.real (.zero .real)
  | ⟨.borrowed, false⟩ => borrowed
  | ⟨.borrowed, true⟩ => optionalBorrowed
  | ⟨.owned, false⟩ => owned
  | ⟨.owned, true⟩ => optionalOwned

end Handler

/-- The value of a row or a group. -/
def Context.process {σ : Type} (r : Routine σ) (c : Context σ) (args : List Argument)
    (flags : Flags) (area : ResultArea) : ProcessReply σ :=
  Handler.ofReturns r.returns (fun s e => r.process s c.settings args e) c flags area

end Loadable
