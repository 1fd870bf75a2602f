/-
# Generic parameters

Parameters in angle brackets behind a name or `impl`, and the conditions behind `where`.
-/

import Loadable.Source.Type

namespace Loadable
namespace Source
namespace Parser

section
variable (g : Grammar)

/-- Bounds behind a colon, up to where `stop` holds. -/
def boundsUntil (stop : Parser Bool) : Parser Unit := joined "+" stop (discard (boundOf g))

/-- One parameter: a lifetime, a type or a value. -/
def genericParameter : Parser Unit := do
  attributes g
  let atStop : Parser Bool := return (← atMark ",") || (← atMark ">")
  if ← atLifetime then
    lifetime
    if ← mark? ":" then joined "+" atStop lifetime
  else if ← word? "const" then
    discard identifier
    mark ":"
    discard (g.type true)
    if ← mark? "=" then constArgument g
  else
    if ← atWord "_" then word "_" else discard identifier
    if ← mark? ":" then boundsUntil g (return (← atStop) || (← atMark "="))
    if ← mark? "=" then discard (g.type true)

/-- Parameters in angle brackets, if there are any brackets.  Gives their number. -/
def generics : Parser Nat := do
  if ← mark? "<" then
    let parameters ← separated "," (atMark ">") (genericParameter g)
    mark ">"
    return parameters.length
  else return 0

/-- Whether conditions end here. -/
def atWhereEnd : Parser Bool := do
  return (← atEnd) || (← atOpening .brace) || (← atMark ",") || (← atMark ";")
    || ((← atMark ":") && !(← atMark "::")) || (← atMark "=")

/-- One condition. -/
def wherePredicate : Parser Unit := do
  match ← ahead with
  | .lifetime _ :: .mark ':' _ :: _ =>
    lifetime
    mark ":"
    joined "+" atWhereEnd lifetime
  | _ =>
    discard boundLifetimes
    discard (g.type true)
    mark ":"
    boundsUntil g atWhereEnd

/-- The conditions behind `where`, if there are any. -/
def whereClause : Parser Unit := do
  if ← word? "where" then joined "," atWhereEnd (wherePredicate g)

/-- Whether angle brackets behind `impl` hold parameters, and not the type of a path. -/
def atImplGenerics : Parser Bool := do
  match ← ahead with
  | .mark '<' _ :: .mark '>' _ :: _ => return true
  | .mark '<' _ :: .mark '#' _ :: _ => return true
  | .mark '<' _ :: .word "const" :: _ => return true
  | .mark '<' _ :: t :: ts =>
    return (isLifetime t || isIdentifier t) && !startsWith [':', ':'] ts
      && [[':'], [','], ['>'], ['=']].any (startsWith · ts)
  | _ => return false

end

end Parser
end Source
end Loadable
