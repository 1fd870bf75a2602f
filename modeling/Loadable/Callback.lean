/-
# Callbacks

A function is a handful of exported callbacks, told apart by what they take and give.  Three kinds
produce the value of a row.
-/

import Loadable.Tag

namespace Loadable

/-- What a callback takes. -/
inductive Param where
  | context
  | args
  | errorMessage
  | resultBuffer
  | length
  | isNull
  | error
  deriving DecidableEq, Repr

/-- The kinds of callbacks. -/
inductive CallbackKind where
  | init
  | deinit
  | clear
  | add
  | double
  | longlong
  | string
  /-- An exported function of which nothing else is known. -/
  | any
  deriving DecidableEq, Repr

/-- The kinds that produce a value. -/
inductive ProcessKind where
  | double
  | longlong
  | string
  deriving DecidableEq, Repr

namespace CallbackKind

def name : CallbackKind → String
  | init => "init"
  | deinit => "deinit"
  | clear => "clear"
  | add => "add"
  | double => "double"
  | longlong => "longlong"
  | string => "string"
  | any => "any"

/-- What a callback of the kind takes, in order. -/
def params : CallbackKind → List Param
  | init => [.context, .args, .errorMessage]
  | deinit => [.context]
  | clear => [.context, .isNull, .error]
  | add => [.context, .args, .isNull, .error]
  | double => [.context, .args, .isNull, .error]
  | longlong => [.context, .args, .isNull, .error]
  | string => [.context, .args, .resultBuffer, .length, .isNull, .error]
  | any => []

/-- Whether the callback says if it failed. -/
def returnsStatus (k : CallbackKind) : Bool := k = init

/-- Whether the callback writes the length of its result. -/
def hasLengthOut (k : CallbackKind) : Bool := k = string

/-- Whether it is known how to call it. -/
def isInvocable (k : CallbackKind) : Bool := k ≠ any

/-- The kind as one that produces a value. -/
def toProcess? : CallbackKind → Option ProcessKind
  | double => some .double
  | longlong => some .longlong
  | string => some .string
  | _ => none

def isProcess (k : CallbackKind) : Bool := k.toProcess?.isSome

/-- What follows the function's name in the symbol. -/
def suffix? : CallbackKind → Option String
  | init => some "_init"
  | deinit => some "_deinit"
  | clear => some "_clear"
  | add => some "_add"
  | _ => none

end CallbackKind

namespace ProcessKind

def toKind : ProcessKind → CallbackKind
  | double => .double
  | longlong => .longlong
  | string => .string

/-- The kind that produces values of a return type. -/
def ofTag? : Tag → Option ProcessKind
  | .real => some double
  | .int => some longlong
  | .string => some string
  | .decimal => some string
  | .invalid => none
  | .row => none

theorem toProcess?_toKind (k : ProcessKind) : k.toKind.toProcess? = some k := by cases k <;> rfl

end ProcessKind

/-- A callback of a known kind at an address. -/
structure Callback (α : Type) where
  kind : CallbackKind
  address : α
  deriving DecidableEq, Repr

/-- A callback that produces a value, at an address. -/
structure ProcessCallback (α : Type) where
  kind : ProcessKind
  address : α
  deriving DecidableEq, Repr

namespace Callback

/-- Forget the kind. -/
def erase {α : Type} (c : Callback α) : α := c.address

/-- Take what is at an address for a callback of a kind; an empty slot stays empty. -/
def restore {α : Type} (kind : CallbackKind) (slot : Option α) : Option (Callback α) :=
  slot.map (⟨kind, ·⟩)

theorem erase_restore {α : Type} (kind : CallbackKind) (slot : Option α) :
    (restore kind slot).map erase = slot := by cases slot <;> rfl

/-- The address of a callback of a kind; a callback of another kind has none. -/
def addressAs? {α : Type} (kind : CallbackKind) (c : Callback α) : Option α :=
  if c.kind = kind then some c.address else none

/-- The callback as one that produces a value. -/
def toProcess? {α : Type} (c : Callback α) : Option (ProcessCallback α) :=
  c.kind.toProcess?.map (⟨·, c.address⟩)

end Callback

/-- The callback of its kind. -/
def ProcessCallback.toCallback {α : Type} (c : ProcessCallback α) : Callback α :=
  ⟨c.kind.toKind, c.address⟩

end Loadable
