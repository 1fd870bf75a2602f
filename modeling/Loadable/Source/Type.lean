/-
# Reading types

Where a type may have several bounds, a plus sign behind it takes one more; where not, the sign
belongs to something else.
-/

import Loadable.Source.Attribute

namespace Loadable
namespace Source
namespace Parser

section
variable (g : Grammar)

/-- Whether a bound may come next. -/
def atBound : Parser Bool := do
  return (← ahead).head?.any isWord || (← atMark "::") || (← atMark "?") || (← atLifetime)
    || (← atOpening .paren) || (← atMark "~")

/-- Bounds behind each plus sign; a last sign may have none. -/
def moreBounds : Parser Unit := do
  discard <| repeated do
    if ← mark? "+" then
      if ← atBound then return some (← boundOf g) else return none
    else return none

/-- Bounds of which one at least is a trait. -/
def bounds (several : Bool) : Parser Unit := do
  let first ← boundOf g
  let rest ← if several then
      repeated do
        if ← mark? "+" then
          if ← atBound then return some (← boundOf g) else return none
        else return none
    else pure []
  unless (first :: rest).any id do failure

/-- Whether a name and a colon come next. -/
def atParameterName : Parser Bool := do
  match ← ahead with
  | t :: ts => return (isIdentifier t || t = .word "_" || t = .word "self")
      && startsWith [':'] ts && !startsWith [':', ':'] ts
  | [] => return false

/-- The parameters of a function type, of which only the last may stand for any number. -/
def functionParameters : Parser Unit := do
  let parameters ← separated "," atEnd do
    attributes g
    if ← atParameterName then
      discard anyWord
      mark ":"
    if ← mark? "..." then return true
    discard (g.type true)
    return false
  if parameters.dropLast.any (·.1) then failure

/-- A convention of calls: `extern "C"`. -/
def convention : Parser Unit := do
  if ← word? "extern" then
    match (← ahead).head? with
    | some (.literal l) =>
      match l.kind with
      | .string _ => discard next
      | _ => return
    | _ => return

/-- A function type. -/
def functionType : Parser Unit := do
  discard (word? "unsafe")
  convention
  word "fn"
  inside .paren (functionParameters g)
  returned g false

/-- What a type in parentheses turns out to be. -/
inductive Enclosed where
  /-- One type. -/
  | one (t : TypeExpr)
  /-- A bound that must not hold of all types. -/
  | relaxed
  /-- Anything else. -/
  | whole

/-- What stands in the parentheses of a type. -/
def enclosed : Parser Enclosed := do
  if ← atEnd then return .whole
  if ← atLifetime then
    let (_, ts) ← captured (bounds g true)
    return .one (.other ts)
  if ← atMark "?" then
    discard (boundOf g)
    return .relaxed
  let first ← g.type true
  if ← mark? "," then
    discard (listed (g.type true))
    return .whole
  return .one first

/-- A type in parentheses, a tuple or a list of bounds that starts with one in parentheses. -/
def parenType (several : Bool) : Parser (List Token → TypeExpr) := do
  match ← inside .paren (enclosed g) with
  | .whole => return .other
  | .relaxed =>
    discard (whileTrue (atMark "+") do
      mark "+"
      boundOf g)
    return .other
  | .one t =>
    if several && t.toPath?.isSome && (← atMark "+") then
      discard (whileTrue (atMark "+") do
        mark "+"
        boundOf g)
      return .other
    else return .paren t

/-- A type that starts with a path, behind lifetimes bound for it if `bound` holds. -/
def pathType (several bound : Bool) : Parser (List Token → TypeExpr) := do
  let (qualified, p) ← qualifiedPath g false
  let p ← functionArguments g p
  if qualified then return .path true p.rooted p.segments
  if (← atMark "!") && !(← atMark "!=") && p.isPlain then
    mark "!"
    discard group
    return .other
  if bound || (several && (← atMark "+")) then
    if several then moreBounds g
    return .other
  return .path false p.rooted p.segments

/-- A type, to which the tokens it is written with are still to be given. -/
def typeForm (several : Bool) : Parser (List Token → TypeExpr) := do
  let bound ← boundLifetimes
  let atFunction ← atOneOf ["fn", "unsafe", "extern"]
  if bound && !atFunction && !(← atPathWord) then failure
  if atFunction then
    functionType g
    return .other
  if (← atPathWord) || (← atMark "::") || (← atMark "<") then return ← pathType g several bound
  if ← atOpening .paren then return ← parenType g several
  if ← word? "dyn" then
    discard (mark? "*")
    bounds g several
    return .other
  if ← atOpening .bracket then
    inside .bracket do
      discard (g.type true)
      if ← mark? ";" then discard (g.expr true)
    return .other
  if ← mark? "*" then
    if !(← word? "const") then word "mut"
    discard (g.type false)
    return .other
  if ← mark? "&" then
    discard (onlyIf atLifetime lifetime)
    discard (word? "mut")
    discard (g.type false)
    return .reference
  if ← mark? "!" then return .other
  if ← word? "impl" then
    bounds g several
    return .other
  if ← word? "_" then return .other
  if ← atLifetime then
    bounds g true
    return .other
  failure

/-- A type. -/
def typeExpr (several : Bool) : Parser TypeExpr := do
  let (form, ts) ← captured (typeForm g several)
  return form ts

end

end Parser
end Source
end Loadable
