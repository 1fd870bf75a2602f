/-
# Functions that show their calls

`log_calls` writes an entry for every call, `volatile` panics wherever its argument tells it to.
-/

import Loadable.Routine

namespace Loadable
namespace Functions

/-- An entry for a call. -/
def noted (message : String) : List Event := [.logged .note message]

/-- The error code that a call was told of, in a message. -/
def codeText (error : Option Code) : String :=
  Value.optionText (error.map fun e => toString e.val.toNat)

/-- An entry for every call; always NULL. -/
def logCalls : Routine Unit where
  returns := ⟨.int, true⟩
  init p args := ⟨p, .ok (), noted s!"called init with {args.length} arguments"⟩
  process s _ _ error := ⟨s, .ok none, noted ("called process, error " ++ codeText error)⟩
  clear s _ _ := ⟨s, .ok (), noted "called clear"⟩
  add s _ args _ := ⟨s, .ok (), noted ("called add with " ++ Argument.listText args)⟩
  remove s _ args _ := ⟨s, .ok (), noted ("called remove with " ++ Argument.listText args)⟩
  drop _ := ⟨(), .ok (), noted "called deinit"⟩

/-- The text of its integer, and a panic at zero. -/
def volatile : Routine Unit where
  returns := ⟨.owned, true⟩
  init p args :=
    if args[0]?.map (·.writtenAs) = some "panic_in_init" then
      ⟨p, .panic (.text "init was told to panic"), []⟩
    else ⟨p, .ok (), []⟩
  process s _ args _ :=
    match Argument.intAt? args 0 with
    | some v =>
      if v = 0 then ⟨s, .panic (.text "process was told to panic"), []⟩
      else ⟨s, .ok (some (Utf8.encode (Value.intText v))), []⟩
    | none => ⟨s, .ok none, []⟩
  add s _ args _ :=
    if Argument.intAt? args 0 = some 0 then ⟨s, .panic (.text "add was told to panic"), []⟩
    else ⟨s, .ok (), []⟩

end Functions
end Loadable
