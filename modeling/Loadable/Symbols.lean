/-
# The symbols of a function

When a function is created the server looks its callbacks up among the exports of a library: the
name itself for the value of a row, and the name with `_init`, `_deinit` and, for an aggregate,
`_clear`, `_add` and `_remove`.  The first of these must be there, for an aggregate also `_clear` and
`_add`; without a return type that values can have nothing is looked up.
-/

import Loadable.Callback

namespace Loadable

/-- The callbacks of one function, by their places. -/
structure Symbols (α : Type) where
  name : String
  /-- Whether the function was created as an aggregate. -/
  aggregate : Bool
  init : Option α := none
  deinit : Option α := none
  process : Option (ProcessCallback α) := none
  clear : Option α := none
  add : Option α := none
  remove : Option α := none
  deriving DecidableEq, Repr

/-- Why callbacks do not make a function. -/
inductive SymbolError where
  | missingProcess (name : String)
  | missingAggregate (name suffix : String)
  | unexpectedAggregate (name suffix : String)
  | invalidReturnType (tag : Tag)
  | notAProcess (kind : CallbackKind)
  deriving DecidableEq, Repr

/-- What a symbol error says. -/
def SymbolError.message : SymbolError → String
  | missingProcess name => s!"function `{name}` has no process symbol"
  | missingAggregate name suffix => s!"aggregate function `{name}` has no `{name}{suffix}` symbol"
  | unexpectedAggregate name suffix => s!"`{name}` is not an aggregate but exports `{name}{suffix}`"
  | invalidReturnType tag => "`" ++ tag.label ++ "` cannot be used as a return type"
  | notAProcess kind => "a `" ++ kind.name ++ "` callback does not produce a value"

/-- A callback as one that produces a value, or the error that it is none. -/
def Callback.toProcess {α : Type} (c : Callback α) : Except SymbolError (ProcessCallback α) :=
  match c.toProcess? with
  | some p => .ok p
  | none => .error (.notAProcess c.kind)

namespace Symbols

variable {α : Type}

/-- Check that the callbacks make a function of its kind. -/
def validate (s : Symbols α) : Except SymbolError Unit :=
  if s.process.isNone then .error (.missingProcess s.name)
  else if s.aggregate then
    if s.clear.isNone then .error (.missingAggregate s.name "_clear")
    else if s.add.isNone then .error (.missingAggregate s.name "_add")
    else .ok ()
  else if s.clear.isSome then .error (.unexpectedAggregate s.name "_clear")
  else if s.add.isSome then .error (.unexpectedAggregate s.name "_add")
  else .ok ()

/-- Looking up names one after the other, which are noted in this order, until all is found that is
needed or an error ends it. -/
abbrev Search := ExceptT SymbolError (StateM (List String))

/-- Look up a name among the exports. -/
def ask (lookup : String → Option α) (symbol : String) : Search (Option α) := do
  modify (· ++ [symbol])
  return lookup symbol

/-- Look up a callback of a kind. -/
def find (lookup : String → Option α) (kind : CallbackKind) (symbol : String) :
    Search (Option (Callback α)) := do
  return Callback.restore kind (← ask lookup symbol)

/-- Look up what stands in the place for callbacks of a kind. -/
def slot (lookup : String → Option α) (kind : CallbackKind) (symbol : String) :
    Search (Option α) := do
  return (← find lookup kind symbol).bind (·.addressAs? kind)

/-- Look up what produces the values. -/
def value (lookup : String → Option α) (kind : ProcessKind) (symbol : String) :
    Search (Option (ProcessCallback α)) := do
  match ← find lookup kind.toKind symbol with
  | some callback => return some (← callback.toProcess)
  | none => return none

/-- Look up the callbacks of a function.  Those for groups are looked up for an aggregate only. -/
def search (lookup : String → Option α) (name : String) (aggregate : Bool) (returns : Tag) :
    Search (Symbols α) := do
  let some kind := ProcessKind.ofTag? returns | throw (.invalidReturnType returns)
  let process ← value lookup kind name
  let init ← slot lookup .init (name ++ "_init")
  let deinit ← slot lookup .deinit (name ++ "_deinit")
  let mut symbols : Symbols α := { name, aggregate, init, deinit, process }
  if aggregate then
    let clear ← slot lookup .clear (name ++ "_clear")
    let add ← slot lookup .add (name ++ "_add")
    let remove ← slot lookup .add (name ++ "_remove")
    symbols := { symbols with clear, add, remove }
  symbols.validate
  return symbols

/-- The names asked for, and the function they make. -/
def resolve (lookup : String → Option α) (name : String) (aggregate : Bool) (returns : Tag) :
    List String × Except SymbolError (Symbols α) :=
  ((search lookup name aggregate returns).run.run []).run.swap

end Symbols
end Loadable
