/-
# Functions that follow a script

There is one for each way to return a value.  A script says for one call what the function does and
how the call ends; the state is the number of calls since `init`.
-/

import Loadable.Routine

namespace Loadable

/-- One thing that a script asks for. -/
inductive Action where
  /-- Note what the call was given. -/
  | observe
  /-- Note settings and arguments as messages show them. -/
  | inspect
  | log (entry : Log.Entry)
  /-- Ask for a conversion, in `init`. -/
  | ask (index : Nat) (type : SqlType)
  /-- Change a setting, in `init`. -/
  | set (change : Settings.Change)
  deriving DecidableEq, Repr

/-- A value in a script. -/
inductive Answer where
  | null
  | int (v : Int64)
  | real (v : Double)
  | bytes (v : Bytes)
  deriving DecidableEq, Repr

/-- How a call ends. -/
inductive Ending where
  | succeed (answer : Answer)
  /-- Fail, with a text in `init` and with a code in a step of a group. -/
  | fail (text : String) (code : Code)
  | panic (p : Panic)
  deriving Repr

/-- What a function does in one call, and the panic, if any, in which giving up its state ends. -/
structure Script where
  actions : List Action
  ending : Ending
  dropPanic : Option Panic
  deriving Repr

namespace Script

/-- Do nothing. -/
def idle : Script := ⟨[], .succeed .null, none⟩

end Script

/-- What an action does in `init`. -/
def Action.prepare (args : List Argument) (p : Preparation) : Action → Preparation × List Event
  | observe => (p, [.note (.prepared p.settings args p.wishes)])
  | inspect => (p, [.note (.shown p.settings (some args))])
  | log e => (p, [.log e])
  | ask i type =>
    if i < args.length then (p.ask i type, []) else (p, [.note (.noArgument i)])
  | set change => (p.set change, [])

/-- What actions do in `init`, one after the other. -/
def Action.prepareAll (args : List Argument) : List Action → Preparation → Preparation × List Event
  | [], p => (p, [])
  | a :: as, p =>
    let (p, first) := a.prepare args p
    let (p, rest) := prepareAll args as p
    (p, first ++ rest)

/-- What a later call is given: its stage and number, the error code, settings and arguments. -/
structure CallView where
  stage : Stage
  calls : Nat
  error : Option Code
  settings : Settings
  args : Option (List Argument)

/-- What an action lets be seen in a later call. -/
def Action.show (v : CallView) : Action → List Event
  | observe => [.note (.called v.stage v.calls (v.error.map Subtype.val) v.settings v.args)]
  | inspect => [.note (.shown v.settings v.args)]
  | log e => [.log e]
  | ask _ _ => []
  | set _ => []

/-- A function that follows scripts. -/
structure Scripted where
  name : String
  returns : Returns
  /-- Whether its values are texts. -/
  isText : Bool
  /-- Whether a row can be taken out of a group by code of its own. -/
  removes : Bool
  deriving DecidableEq, Repr

namespace Scripted

/-- The value of an answer, `none` for NULL or for an answer of another carrier. -/
def payload? (isText : Bool) : (c : Carrier) → Answer → Option c.Payload
  | .int, .int v => some v
  | .real, .real v => some v
  | .borrowed, .bytes bs => some (.reference (if isText then .text (Utf8.lossy bs) else .bytes bs))
  | .owned, .bytes bs => some (if isText then Utf8.encode (Utf8.lossy bs) else bs)
  | _, _ => none

/-- A step of a group by script. -/
def step (script : Script) (v : CallView) : Run Nat Code Unit :=
  ⟨v.calls, match script.ending with
    | .succeed _ => .ok ()
    | .fail _ code => .err code
    | .panic p => .panic p, script.actions.flatMap (Action.show v)⟩

/-- The code of the function, following one script. -/
def routine (f : Scripted) (script : Script) : Routine Nat where
  returns := f.returns
  init p args :=
    let (p, events) := Action.prepareAll args script.actions p
    ⟨p, match script.ending with
      | .succeed _ => .ok 0
      | .fail text _ => .err text
      | .panic e => .panic e, events⟩
  process n s args error :=
    ⟨n + 1, match script.ending with
      | .succeed a => .ok (f.returns.ofOption (payload? f.isText f.returns.carrier a))
      | .fail _ _ => .err ()
      | .panic p => .panic p,
      script.actions.flatMap (Action.show ⟨.process, n + 1, error, s, some args⟩)⟩
  clear n s error := step script ⟨.clear, n + 1, error, s, none⟩
  add n s args error := step script ⟨.add, n + 1, error, s, some args⟩
  remove n s args error :=
    if f.removes then step script ⟨.remove, n + 1, error, s, some args⟩ else ⟨n, .ok (), []⟩
  drop n :=
    ⟨(), match script.dropPanic with
      | some p => .panic p
      | none => .ok (), [.note (.dropped n)]⟩

/-- The functions that follow scripts. -/
def all : List Scripted :=
  [⟨"probe_int", ⟨.int, false⟩, false, true⟩, ⟨"probe_int_opt", ⟨.int, true⟩, false, false⟩,
    ⟨"probe_real", ⟨.real, false⟩, false, false⟩, ⟨"probe_real_opt", ⟨.real, true⟩, false, false⟩,
    ⟨"probe_str", ⟨.borrowed, false⟩, true, false⟩,
    ⟨"probe_str_opt", ⟨.borrowed, true⟩, true, false⟩,
    ⟨"probe_bytes_opt", ⟨.borrowed, true⟩, false, false⟩,
    ⟨"probe_cow", ⟨.borrowed, false⟩, true, false⟩, ⟨"probe_text", ⟨.owned, false⟩, true, true⟩,
    ⟨"probe_text_opt", ⟨.owned, true⟩, true, false⟩, ⟨"probe_vec", ⟨.owned, false⟩, false, false⟩,
    ⟨"probe_vec_opt", ⟨.owned, true⟩, false, false⟩,
    ⟨"probe_box_opt", ⟨.owned, true⟩, true, false⟩]

end Scripted
end Loadable
