/-
# Paths

Names in several parts, each of which may have arguments.  Among the arguments in angle brackets the
lifetimes are written first.
-/

import Loadable.Source.Grammar

namespace Loadable
namespace Source
namespace Parser

/-- The words that may stand in a path without being identifiers. -/
def pathWords : List String := ["super", "self", "Self", "crate"]

/-- Whether a part of a path comes next. -/
def atPathWord : Parser Bool := return (← atIdentifier) || (← atOneOf pathWords)

/-- Two colons. -/
def colons : Parser Bool := mark? "::"

/-- Whether two colons and something come next. -/
def atColonsThen (p : List Token → Bool) : Parser Bool := do
  return startsWith [':', ':'] (← ahead) && p ((← ahead).drop 2)

/-- Whether tokens start with a parenthesis. -/
def startsParen (ts : List Token) : Bool := ts.head? = some (.opening .paren)

/-- Whether an opening angle bracket comes next that is no operator. -/
def atAngle : Parser Bool := return (← atMark "<") && !(← atMark "<=") && !(← atMark "<<=")

/-- A path without arguments. -/
def plainPath : Parser Path := do
  let rooted ← colons
  let step : Parser (String × Bool) := do
    unless ← atPathWord do failure
    return (← anyWord, ← colons)
  let first ← step
  let rest ← if first.2 then
      repeated do
        if ← atPathWord then return some (← step) else return none
    else pure []
  let words := first :: rest
  -- every word but the last has colons behind it
  if words.dropLast.all (·.2) && words.getLast?.all (!·.2) then
    return ⟨rooted, words.map fun (w, _) => .mk w .none⟩
  else failure

/-- The tokens of arguments, the lifetimes first. -/
def orderedTokens (args : List ((GenericArg × List Token) × Bool)) : List Token :=
  let isLifetime : ((GenericArg × List Token) × Bool) → Bool
    | ((.lifetime, _), _) => true
    | _ => false
  let written := fun (a : (GenericArg × List Token) × Bool) =>
    a.1.2 ++ if a.2 then [Token.mark ',' false] else []
  let lifetimes := args.filter isLifetime
  let others := args.filter (!isLifetime ·)
  let between :=
    if (lifetimes.getLast?.any (!·.2)) && !others.isEmpty then [Token.mark ',' false] else []
  lifetimes.flatMap written ++ between ++ others.flatMap written

section
variable (g : Grammar)

/-- An argument that is a value. -/
def constArgument : Parser Unit := do
  if ← atLiteral then discard literal
  else if ← atIdentifier then discard identifier
  else g.block

/-- Lifetimes bound for a type: `for<'a, 'b>`. -/
def boundLifetimes : Parser Bool := do
  if ← word? "for" then
    mark "<"
    discard <| separated "," (atMark ">") do
      lifetime
      if ← mark? ":" then
        joined "+" (return (← atMark ",") || (← atMark ">")) lifetime
    mark ">"
    return true
  else return false

/-- What a function type returns. -/
def returned (severalBounds : Bool) : Parser Unit := do
  if ← mark? "->" then discard (g.type severalBounds)

/-- Arguments in parentheses, as function traits have them.  Colons before them are not written. -/
def parenthesizedArguments : Parser Unit := do
  if ← atMark "::" then
    skip
    skip
  discard (inside .paren (listed (g.type true)))
  returned g false

/-- Whether arguments in parentheses come next. -/
def atParenthesizedArguments : Parser Bool :=
  return (← atOpening .paren) || (← atColonsThen startsParen)

/-- Replace the arguments of the last part of a path. -/
def withLastArguments (a : Arguments) : List Segment → List Segment
  | [] => []
  | [s] => [.mk s.name a]
  | s :: ss => s :: withLastArguments a ss

/-- Arguments in parentheses behind a path whose last part has none. -/
def functionArguments (p : Path) : Parser Path := do
  if (p.segments.getLast?.any (·.arguments.isNone)) && (← atParenthesizedArguments) then
    parenthesizedArguments g
    return { p with segments := withLastArguments .parenthesized p.segments }
  else return p

/-- Whether a type is a lone word, with arguments in angle brackets or none. -/
def isAssociable (t : TypeExpr) : Bool :=
  match t with
  | .path false false [.mk _ .parenthesized] _ => false
  | .path false false [_] _ => true
  | _ => false

/-- One bound: a lifetime, or a trait, perhaps in parentheses.  Says whether it is a trait. -/
def boundOf : Parser Bool := do
  if ← atLifetime then
    lifetime
    return false
  let trait : Parser Unit := do
    let bound ← boundLifetimes
    if ← mark? "~" then word "const" else discard (word? "const")
    let relaxed ← mark? "?"
    if relaxed && !bound then discard boundLifetimes
    discard (functionArguments g (← g.path))
  if ← atOpening .paren then inside .paren trait else trait
  return true

/-- An argument in angle brackets. -/
def genericArgument : Parser GenericArg := do
  if (← atLifetime) && !startsWith ['+'] ((← ahead).drop 1) then
    lifetime
    return .lifetime
  if (← atLiteral) || (← atOpening .brace) then
    constArgument g
    return .other
  let t ← g.type true
  if isAssociable t then
    if ← mark? "=" then
      if (← atLiteral) || (← atOpening .brace) then constArgument g else discard (g.type true)
      return .other
    if ← mark? ":" then
      joined "+" (return (← atMark ",") || (← atMark ">")) (discard (boundOf g))
      return .other
  return .type t

/-- Arguments in angle brackets. -/
def angledArguments : Parser Arguments := do
  discard colons
  mark "<"
  let (args, _) ← held (separated "," (atMark ">") (captured (genericArgument g)))
  write (orderedTokens args)
  mark ">"
  return .angled (args.map fun a => a.1.1)

/-- A part of a path.  In an expression arguments need colons. -/
def segment (inExpr : Bool) : Parser Segment := do
  if ← atOneOf ["super", "self", "crate", "try"] then return .mk (← anyWord) .none
  let name ← if ← atWord "Self" then anyWord else identifier
  let angled ← if inExpr then pure false else atAngle
  if angled || (← atColonsThen (startsWith ['<'])) then
    return .mk name (← angledArguments g)
  else return .mk name .none

/-- A path. -/
def path (inExpr : Bool) : Parser Path := do
  let rooted ← colons
  let first ← segment g inExpr
  let more : Parser Bool := return (← atMark "::") && !(← atColonsThen startsParen)
  let rest ← whileTrue more do
    discard colons
    segment g inExpr
  return ⟨rooted, first :: rest⟩

/-- A path that may go through a type in angle brackets, and whether it does.  The parts of a trait
in the brackets count among its own. -/
def qualifiedPath (inExpr : Bool) : Parser (Bool × Path) := do
  if ← atMark "<" then
    mark "<"
    discard (g.type true)
    let outer ← if ← word? "as" then pure (← g.path).segments else pure []
    mark ">"
    mark "::"
    let first ← segment g inExpr
    let rest ← whileTrue (atMark "::") do
      discard colons
      segment g inExpr
    return (true, ⟨false, outer ++ first :: rest⟩)
  else return (false, ← path g inExpr)

end

end Parser
end Source
end Loadable
