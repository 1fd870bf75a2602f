/-
# Implementations

An implementation says what a type does, by itself or for a trait.  Kept of it are the trait, the
number of generic parameters, the type, and of its members the functions with a body and the types
that are defined.
-/

import Loadable.Source.Statement

namespace Loadable
namespace Source

/-- A member of an implementation. -/
inductive Member where
  | function (name : String)
  | type (name : String) (definition : TypeExpr)
  | other

/-- An implementation. -/
structure Implementation where
  /-- The trait that it is for, unless it says that the type is without it. -/
  trait : Option Path
  /-- The number of generic parameters. -/
  parameters : Nat
  selfType : TypeExpr
  members : List Member

namespace Implementation

/-- Whether a function of a name is among the members. -/
def hasFunction (i : Implementation) (name : String) : Bool :=
  i.members.any fun
    | .function n => n = name
    | _ => false

/-- The first definition of a type of a name. -/
def type? (i : Implementation) (name : String) : Option TypeExpr :=
  i.members.findSome? fun
    | .type n t => if n = name then some t else none
    | _ => none

end Implementation

namespace Parser

/-- What a parameter of a function is. -/
inductive ParameterKind where
  /-- The value that the function belongs to. -/
  | receiver
  | typed
  /-- It stands for any number of values. -/
  | variadic
  deriving DecidableEq, Repr

section
variable (g : Grammar)

/-- The value that a function belongs to. -/
def receiver : Parser Unit := do
  let reference ← mark? "&"
  if reference then discard (onlyIf atLifetime lifetime)
  discard (word? "mut")
  word "self"
  if reference then return
  if ← mark? ":" then discard (g.type true)

/-- A parameter that is no receiver.  A type that starts with a name and an angle bracket may stand
alone. -/
def plainParameter : Parser ParameterKind := do
  if ← mark? "..." then return .variadic
  if (← atIdentifier) && startsWith ['<'] ((← ahead).drop 1) then
    discard (g.type true)
    return .typed
  g.pattern
  mark ":"
  if ← mark? "..." then return .variadic
  discard (g.type true)
  return .typed

/-- The parameters of a function, of which only the first may be a receiver and only the last may
stand for any number. -/
def parameters : Parser Unit := do
  let kinds ← separated "," atEnd do
    attributes g
    (do
      receiver g
      return .receiver) <|> plainParameter g
  let kinds := kinds.map Prod.fst
  if kinds.tail.contains .receiver || kinds.dropLast.contains .variadic then failure

/-- The words before the name of a function. -/
def functionStart : Parser Unit := do
  discard (word? "const")
  discard (word? "async")
  discard (word? "unsafe")
  convention
  word "fn"

/-- Whether a function comes next. -/
def atFunction : Parser Bool := return (functionStart (← get)).isSome

/-- A function.  It counts if it has a body. -/
def function : Parser Member := do
  functionStart
  let name ← identifier
  discard (generics g)
  inside .paren (parameters g)
  returned g true
  whereClause g
  if ← mark? ";" then return .other
  g.block
  return .function name

/-- A constant. -/
def constant : Parser Member := do
  word "const"
  if ← atWord "_" then word "_" else discard identifier
  discard (generics g)
  mark ":"
  discard (g.type true)
  if ← mark? "=" then discard (g.expr true)
  whereClause g
  mark ";"
  return .other

/-- A type.  It counts if it is defined and has no bounds. -/
def typeMember : Parser Member := do
  word "type"
  let name ← identifier
  discard (generics g)
  let bounded ← mark? ":"
  if bounded then boundsUntil g (return (← atWord "where") || (← atMark "=") || (← atMark ";"))
  let definition ← onlyIf (atMark "=") do
    mark "="
    g.type true
  whereClause g
  mark ";"
  match definition with
  | some t => return if bounded then .other else .type name t
  | none => return .other

/-- A macro that stands for members. -/
def macroMember : Parser Member := do
  discard plainPath
  mark "!"
  unless (← group) = .brace do mark ";"
  return .other

/-- Whether a member is declared as a default, and not a macro of that name called. -/
def atDefault : Parser Bool :=
  return (← atWord "default") && !startsWith ['!'] ((← ahead).drop 1)

/-- A member. -/
def implementationMember : Parser Member := do
  attributes g
  let visible ← visibility
  let default ← onlyIf atDefault (word "default")
  if ← atFunction then function g
  else if ← atWord "const" then constant g
  else if ← atWord "type" then typeMember g
  else if visible || default.isSome then failure
  else if (← atIdentifier) || (← atOneOf ["super", "self", "crate"]) || (← atMark "::") then
    macroMember
  else failure

/-- The trait and the type: a type alone, or a trait, perhaps denied, and the type it is for. -/
def subject : Parser (Option Path × TypeExpr) := do
  let denied ← onlyIf
    (return (← atMark "!") && !(((← ahead).drop 1).head? = some (.opening .brace))) (mark "!")
  let first ← g.type true
  if ← word? "for" then
    match first.toPath? with
    | some p =>
      let selfType ← g.type true
      return (if denied.isSome then none else some p, selfType)
    | none => failure
  else return (none, first)

/-- An implementation. -/
def implementation : Parser Implementation := do
  attributes g
  discard (word? "default")
  discard (word? "unsafe")
  word "impl"
  let parameters ← if ← atImplGenerics then generics g else pure 0
  let (trait, selfType) ← subject g
  whereClause g
  let members ← inside .brace do
    innerAttributes g
    whileTrue (return !(← atEnd)) (implementationMember g)
  return { trait, parameters, selfType, members }

end

end Parser
end Source
end Loadable
