/-
# What a call lets be seen

Besides its result a call may write to the log and, for a function made to observe, leave notes of
what it was given.
-/

import Loadable.Argument
import Loadable.Log
import Loadable.Settings

namespace Loadable

/-- The part of a function that runs for a row or a group. -/
inductive Stage where
  | process
  | clear
  | add
  | remove
  deriving DecidableEq, Repr

def Stage.name : Stage → String
  | process => "process"
  | clear => "clear"
  | add => "add"
  | remove => "remove"

/-- A note of an observing function. -/
inductive Note where
  /-- What `init` was given, with the conversions asked for so far. -/
  | prepared (settings : Settings) (args : List Argument) (wishes : Wishes)
  /-- What a later stage was given, with the number of such calls so far; `clear` gets no arguments. -/
  | called (stage : Stage) (calls : Nat) (error : Option UInt8) (settings : Settings)
      (args : Option (List Argument))
  /-- Settings and arguments in messages. -/
  | shown (settings : Settings) (args : Option (List Argument))
  /-- There is no argument to convert at this place. -/
  | noArgument (index : Nat)
  /-- The state is gone, after so many calls. -/
  | dropped (calls : Nat)
  deriving DecidableEq, Repr

/-- A log entry or a note. -/
inductive Event where
  | log (entry : Log.Entry)
  | note (n : Note)
  deriving DecidableEq, Repr

namespace Event

/-- A log entry with a severity. -/
def logged (level : Log.Level) (message : String) : Event := .log ⟨some level, message⟩

/-- The entries among events. -/
def entries (events : List Event) : List Log.Entry :=
  events.filterMap fun
    | .log e => some e
    | .note _ => none

/-- The notes among events. -/
def notes (events : List Event) : List Note :=
  events.filterMap fun
    | .log _ => none
    | .note n => some n

end Event
end Loadable
