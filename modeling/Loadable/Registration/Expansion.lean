/-
# What a registration adds

For each of its names a registered implementation exports callbacks.  Each hands what it is called
with on to a handler, which is told the types it works for: the implementation's type, and the type
of the state that is kept behind the context.  A type whose results must outlive the call is kept
together with its last result.
-/

import Loadable.Registration.GivenNames
import Loadable.Registration.DefaultName
import Loadable.Registration.Names
import Loadable.Registration.Role
import Loadable.Registration.Shape
import Loadable.Registration.SymbolName

namespace Loadable
namespace Registration

open Source (Token Implementation)

/-- A path from the root, as tokens. -/
def rootedPath (names : List String) : List Token :=
  names.flatMap fun n => Source.markTokens [':', ':'] ++ [.word n]

/-- Tokens in angle brackets. -/
def inAngles (ts : List Token) : List Token := .mark '<' false :: ts ++ [.mark '>' false]

/-- A type together with a result of another type. -/
def withResult (self inner : List Token) : List Token :=
  rootedPath ["udf", "wrapper", "BufConverter"] ++ inAngles (self ++ .mark ',' false :: inner)

/-- The state of a type that is registered elsewhere. -/
def registeredState (self : List Token) : List Token :=
  inAngles (self ++ .word "as" :: rootedPath ["udf", "traits", "RegisteredBasicUdf"])
    ++ rootedPath ["Storage"]

/-- The state of a type whose values have a shape. -/
def Shape.state (s : Shape) (self : List Token) : List Token :=
  match s.returns.carrier with
  | .owned => withResult self s.inner.tokens
  | _ => self

/-- What a callback hands on to, for a type `self` with its `state`. -/
inductive Handler where
  | init (state self : List Token) (mayBeNull : Bool)
  | deinit (state self : List Token)
  /-- Gives an integer or a real, of the type `inner`. -/
  | number (state self inner : List Token) (optional : Bool)
  /-- Gives bytes of the state. -/
  | borrowed (state self : List Token) (optional : Bool)
  /-- Gives bytes of the type `inner`, kept with the state. -/
  | owned (self inner : List Token) (optional : Bool)
  | clear (state self : List Token)
  | add (state self : List Token)
  | remove (state self : List Token)
  deriving DecidableEq, Repr

namespace Handler

def name : Handler → String
  | init _ _ _ => "wrap_init"
  | deinit _ _ => "wrap_deinit"
  | number _ _ _ false => "wrap_process_basic"
  | number _ _ _ true => "wrap_process_basic_option"
  | borrowed _ _ false => "wrap_process_buf"
  | borrowed _ _ true => "wrap_process_buf_option"
  | owned _ _ false => "wrap_process_buf_owned"
  | owned _ _ true => "wrap_process_buf_owned_option"
  | clear _ _ => "wrap_clear"
  | add _ _ => "wrap_add"
  | remove _ _ => "wrap_remove"

/-- The types that a handler is told. -/
def types : Handler → List (List Token)
  | init state self _ => [state, self]
  | deinit state self => [state, self]
  | number state self inner _ => [state, self, inner]
  | borrowed state self _ => [state, self]
  | owned self inner _ => [self, inner]
  | clear state self => [state, self]
  | add state self => [state, self]
  | remove state self => [state, self]

/-- What a handler is told beside what the callback is called with. -/
def constants : Handler → List Bool
  | init _ _ mayBeNull => [mayBeNull]
  | _ => []

end Handler

/-- The handler that gives values of a shape. -/
def Shape.handler (s : Shape) (self : List Token) : Handler :=
  match s.returns.carrier with
  | .int => .number (s.state self) self s.inner.tokens s.returns.optional
  | .real => .number (s.state self) self s.inner.tokens s.returns.optional
  | .borrowed => .borrowed self self s.returns.optional
  | .owned => .owned self s.inner.tokens s.returns.optional

/-- What a callback is given, as it is called in its definition. -/
def paramName : Param → String
  | .context => "initid"
  | .args => "args"
  | .errorMessage => "message"
  | .resultBuffer => "result"
  | .length => "length"
  | .isNull => "is_null"
  | .error => "error"

/-- The type that a callback of a kind gives. -/
def resultType? : CallbackKind → Option String
  | .init => some "bool"
  | .longlong => some "::std::ffi::c_longlong"
  | .double => some "::std::ffi::c_double"
  | .string => some "*mut::std::ffi::c_char"
  | _ => none

/-- An exported callback. -/
structure Export where
  symbol : String
  kind : CallbackKind
  handler : Handler
  deriving DecidableEq, Repr

/-- What is declared for the type itself. -/
inductive Declaration where
  /-- Its state and its names. -/
  | function (self state : List Token) (names : Names)
  /-- That these are its names. -/
  | aggregate (self : List Token) (names : Names)
  deriving DecidableEq, Repr

/-- Check what is declared for a type whose function is registered: groups must have its names. -/
def Declaration.check (registered : Names) : Declaration → Outcome Mismatch Unit
  | .function _ _ _ => .ok ()
  | .aggregate _ names => registered.verify names.name names.aliases

/-- What a registration adds. -/
structure Expansion where
  declaration : Declaration
  exports : List Export
  deriving DecidableEq, Repr

/-- The callbacks of a function under one name. -/
def functionExports (self : List Token) (s : Shape) (name : String) :
    Except Refusal (List Export) := do
  let init ← symbolName name "_init"
  let deinit ← symbolName name "_deinit"
  let process ← symbolName name ""
  return [⟨init, .init, .init (s.state self) self s.returns.optional⟩,
    ⟨deinit, .deinit, .deinit (s.state self) self⟩,
    ⟨process, s.returns.carrier.kind.toKind, s.handler self⟩]

/-- The callbacks for groups under one name. -/
def aggregateExports (self : List Token) (removes : Bool) (name : String) :
    Except Refusal (List Export) := do
  let state := registeredState self
  let clear ← symbolName name "_clear"
  let add ← symbolName name "_add"
  let exports := [⟨clear, .clear, .clear state self⟩, ⟨add, .add, .add state self⟩]
  if removes then
    let remove ← symbolName name "_remove"
    return exports ++ [⟨remove, .add, .remove state self⟩]
  else return exports

/-- The callbacks under all names. -/
def exportsOf (names : Names) (exportsFor : String → Except Refusal (List Export)) :
    Except Refusal (List Export) := do
  return (← names.all.mapM exportsFor).flatten

/-- The names of a registration for a type. -/
def Names.ofGiven (given : GivenNames) (typeName : String) : Names where
  name := given.name.getD (defaultName typeName)
  aliases := given.aliases
  isDefault := given.name.isNone

/-- A value that must be there. -/
def required {α : Type} (r : Refusal) : Option α → Except Refusal α
  | some a => .ok a
  | none => .error r

namespace Expansion

/-- What is added for an implementation of a role. -/
def ofRole (names : Names) (i : Implementation) : Role → Except Refusal Expansion
  | .basic => do
    let shape := Shape.ofType (← required .missingReturns (i.type? "Returns"))
    let self := i.selfType.tokens
    return ⟨.function self (shape.state self) names,
      ← exportsOf names (functionExports self shape)⟩
  | .aggregate => do
    let self := i.selfType.tokens
    return ⟨.aggregate self names,
      ← exportsOf names (aggregateExports self (i.hasFunction "remove"))⟩

/-- What is added for an implementation that is registered under given names. -/
def ofImplementation (given : GivenNames) (i : Implementation) : Except Refusal Expansion := do
  let role ← required .otherTrait (i.trait.bind Role.ofPath?)
  if i.parameters ≠ 0 then throw .genericImplementation
  let path ← required .unnamedType i.selfType.toPath?
  let last ← required .unnamedType path.segments.getLast?
  let names := Names.ofGiven given last.name
  names.all.forM fun n => discard (symbolName n "")
  ofRole names i role

/-- What is added for the text of an implementation, registered with the text of arguments. -/
def read (arguments item : String) : Except Failure Expansion := do
  let some argumentTokens := Source.tokens? arguments | throw .malformed
  let some itemTokens := Source.tokens? item | throw .malformed
  let given ← GivenNames.ofTokens argumentTokens
  let some i := Source.read? Source.Parser.implementation itemTokens | throw .malformed
  (ofImplementation given i).mapError .refused

end Expansion

end Registration
end Loadable
