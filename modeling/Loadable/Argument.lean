/-
# Arguments in memory

One argument of a call as the server lays it out: a type tag, a place in memory with a length for
values that are bytes, a byte that says whether NULL is possible, and the text it was written as.
Everything a function may ask of an argument is read from these.

Reading never fails.  An unknown tag reads as a string that is NULL, and a decimal that is not UTF-8
as a string; a name that is absent or not UTF-8 reads as empty.
-/

import Loadable.Value

namespace Loadable

/-- An argument as the server lays it out. -/
structure Argument where
  /-- The type tag, any 32-bit number. -/
  tag : Int
  /-- The memory at the value pointer, `none` for a null pointer. -/
  memory : Option Bytes
  /-- The length of a value that is bytes. -/
  length : Nat
  nullable : UInt8
  /-- The memory at the name pointer, `none` for a null pointer. -/
  name : Option Bytes
  nameLength : Nat
  deriving DecidableEq, Repr

namespace Argument

/-- The value of a type that lies in memory. -/
def valueAt (type : SqlType) (memory : Bytes) (length : Nat) : Value :=
  match type with
  | .string => .string (some (memory.take length))
  | .real => .real (some (Double.ofBytes (memory.take 8)))
  | .int => .int (some (intOfBytes (memory.take 8)))
  | .decimal =>
    match Utf8.decode? (memory.take length) with
    | some s => .decimal (some s)
    | none => .string (some (memory.take length))

/-- The value of the argument. -/
def value (a : Argument) : Value :=
  match SqlType.ofNumber a.tag with
  | .error _ => .string none
  | .ok type =>
    match a.memory with
    | none => Value.null type
    | some memory => valueAt type memory a.length

/-- The text that the argument was written as, or its alias. -/
def writtenAs (a : Argument) : String :=
  match a.name with
  | none => ""
  | some bs => (Utf8.decode? (bs.take a.nameLength)).getD ""

/-- Whether the argument may be NULL. -/
def maybeNull (a : Argument) : Bool := a.nullable ≠ 0

/-- Whether the argument is a constant, as far as `init` can tell: it has a value already. -/
def isConst (a : Argument) : Bool := !a.value.isNull

/-- The argument as messages show it. -/
def text (a : Argument) : String :=
  "SqlArg \x7b value: " ++ a.value.text ++ ", attribute: " ++ Text.quoted a.writtenAs
    ++ ", maybe_null: " ++ toString a.maybeNull ++ " \x7d"

/-- The integer of the argument at a place, if it has one. -/
def intAt? (args : List Argument) (i : Nat) : Option Int64 := args[i]?.bind (·.value.toInt?)

/-- The real of the argument at a place, if it has one. -/
def realAt? (args : List Argument) (i : Nat) : Option Double := args[i]?.bind (·.value.toReal?)

/-- The text of the argument at a place, if it has one. -/
def textAt? (args : List Argument) (i : Nat) : Option String := args[i]?.bind (·.value.toText?)

/-- The bytes of the argument at a place, if it has any. -/
def bytesAt? (args : List Argument) (i : Nat) : Option Bytes := args[i]?.bind (·.value.toBytes?)

/-- The first error among the type tags of a list. -/
def typeError? (args : List Argument) : Option TypeError :=
  args.findSome? fun a =>
    match SqlType.ofNumber a.tag with
    | .ok _ => none
    | .error e => some e

/-- A list of arguments as messages show it. -/
def listText (args : List Argument) : String :=
  "ArgList \x7b items: " ++ Value.listText (args.map text) ++ " \x7d"

end Argument

/-- The conversions asked for so far, one place per argument. -/
abbrev Wishes := List (Option SqlType)

namespace Wishes

/-- Nothing asked for. -/
def none (n : Nat) : Wishes := List.replicate n .none

/-- Ask for a conversion; past the end nothing happens. -/
def ask (w : Wishes) (index : Nat) (type : SqlType) : Wishes := w.set index (some type)

/-- The type an argument will have: the one asked for, else that of its value. -/
def typeOf (w : Wishes) (index : Nat) (a : Argument) : SqlType :=
  (w[index]?.join).getD a.value.type

/-- Write the types asked for into the tags. -/
def grant : Wishes → List Argument → List Argument
  | some type :: w, a :: args => { a with tag := type.toTag.number } :: grant w args
  | .none :: w, a :: args => a :: grant w args
  | _, args => args

@[simp] theorem length_grant (w : Wishes) (args : List Argument) :
    (grant w args).length = args.length := by
  fun_induction grant w args <;> simp_all

@[simp] theorem length_ask (w : Wishes) (index : Nat) (type : SqlType) :
    (w.ask index type).length = w.length := by simp [ask]

end Wishes

end Loadable
