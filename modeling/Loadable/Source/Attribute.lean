/-
# Attributes

What stands in brackets behind a hash mark: a path, alone or with a group of tokens or a value.
-/

import Loadable.Source.Path

namespace Loadable
namespace Source
namespace Parser

section
variable (g : Grammar)

/-- The path of an attribute, for which one keyword is allowed. -/
def attributePath : Parser Path := do
  if ← word? "unsafe" then return ⟨false, [.mk "unsafe" .none]⟩ else plainPath

/-- The value of an attribute: the text of a lone string literal. -/
def attributeValue : Parser (Option String) := do
  let alone : Parser (Option Literal) := do
    let l ← literal
    unless ← atEnd do failure
    return l
  let value : Parser (Option String) := do
    match ← ahead with
    | .mark '#' _ :: .opening .bracket :: _ => failure
    | _ => g.expr true
  (do return (← alone).bind fun l =>
    match l.kind with
    | .string s => some s
    | _ => none) <|> value

/-- What stands in the brackets. -/
def attributeBody : Parser Unit := do
  discard attributePath
  match (← ahead).head? with
  | some (.opening _) => discard group
  | _ => if ← mark? "=" then discard (attributeValue g)

/-- One attribute. -/
def oneAttribute : Parser Unit := do
  mark "#"
  inside .bracket (attributeBody g)

/-- The attributes of what follows. -/
def attributes : Parser Unit := discard (whileTrue (atMark "#") (oneAttribute g))

/-- Whether an attribute of what it stands in comes next. -/
def atInnerAttribute : Parser Bool := do
  match ← ahead with
  | .mark '#' _ :: .mark '!' _ :: _ => return true
  | _ => return false

/-- The attributes of what they stand in. -/
def innerAttributes : Parser Unit :=
  discard <| whileTrue atInnerAttribute do
    mark "#"
    mark "!"
    inside .bracket (attributeBody g)

end

end Parser
end Source
end Loadable
