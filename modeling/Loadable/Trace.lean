/-
# The trace of calls

With tracing on, every call is logged when it starts and when it ends; with dumps, each time with the
context and the arguments it works on.  A place in memory shows only as null or not.
-/

import Loadable.Context

namespace Loadable
namespace Trace

/-- A place in memory. -/
def address (isNull : Bool) : String := if isNull then "0x0" else "0x*"

/-- A structure on several lines, a field on each. -/
def block (name : String) (fields : List (String × String)) : String :=
  name ++ " \x7b\n" ++ String.join (fields.map fun (f, v) => "    " ++ f ++ ": " ++ v ++ ",\n")
    ++ "\x7d"

/-- The context. -/
def contextText (s : Settings) (hasState : Bool) : String :=
  block "UDF_INIT" [("maybe_null", toString s.maybeNull), ("decimals", toString s.decimals.toNat),
    ("max_length", toString s.maxLength.toNat), ("ptr", address !hasState),
    ("const_item", toString s.isConst), ("extension", address true)]

/-- The arguments, of which only the number shows. -/
def argsText (count : Nat) : String :=
  block "UDF_ARGS" [("arg_count", toString count), ("arg_types", address false),
    ("args", address false), ("lengths", address false), ("maybe_null", address false),
    ("attributes", address false), ("attribute_lengths", address false),
    ("extension", address true)]

/-- The entries that show what a call works on. -/
def state (direction kind : String) (s : Settings) (hasState : Bool) (count : Option Nat) :
    List Event :=
  [.logged .debug ("data " ++ direction ++ " state at " ++ kind),
    .logged .debug ("[" ++ direction ++ "]: initid = " ++ contextText s hasState)]
    ++ match count with
      | some n => [.logged .debug ("[" ++ direction ++ "]: args = " ++ argsText n)]
      | none => []

/-- How the calls of a function are traced: under the name of its type, with dumps or without. -/
structure Mode where
  type : String
  dumps : Bool
  deriving DecidableEq, Repr

/-- What is traced of one call: its kind, the way to trace it, and the number of arguments if it takes
any. -/
structure Call where
  kind : CallbackKind
  mode : Mode
  count : Option Nat

/-- The entries of a call with dumps that show what it works on. -/
def dump {σ : Type} (direction : String) (call : Call) (c : Context σ) : List Event :=
  if call.mode.dumps then state direction call.kind.name c.settings c.hasState call.count else []

/-- The entries at the start of a call. -/
def enter {σ : Type} (call : Call) (c : Context σ) : List Event :=
  .logged .debug ("ENTER " ++ call.kind.name ++ " for `" ++ call.mode.type ++ "`")
    :: dump "receive" call c

/-- The entries at the end of a call. -/
def exit {σ : Type} (call : Call) (c : Context σ) : List Event :=
  dump "return" call c
    ++ [.logged .debug ("EXIT " ++ call.kind.name ++ " for `" ++ call.mode.type ++ "`")]

/-- The events of a call with its trace around them. -/
def around {σ : Type} (call : Call) (before after : Context σ) (events : List Event) :
    List Event :=
  enter call before ++ events ++ exit call after

/-- The events of a call, with its trace if there is a way to trace it. -/
def seen {σ : Type} (mode : Option Mode) (kind : CallbackKind) (count : Option Nat)
    (before after : Context σ) (events : List Event) : List Event :=
  match mode with
  | some mode => around ⟨kind, mode, count⟩ before after events
  | none => events

end Trace
end Loadable
