/-
# Reading patterns
-/

import Loadable.Source.Type

namespace Loadable
namespace Source
namespace Parser

section
variable (g : Grammar)

/-- A pattern and its alternatives. -/
def alternatives : Parser Unit := do
  discard (mark? "|")
  g.pattern
  let more : Parser Bool := return (← atMark "|") && !(← atMark "||") && !(← atMark "|=")
  discard <| whileTrue more do
    mark "|"
    g.pattern

/-- Whether the pattern after two dots ends here. -/
def atRangeEnd : Parser Bool := do
  return (← atEnd) || (← atMark ",") || (← atMark "=") || (← atMark ":" ) || (← atMark ";")
    || (← atMark "|") || (← atWord "if") || (← atWord "in")

/-- The sign of a range: with `true` if both ends belong to it. -/
def rangeMark? : Parser (Option Bool) := do
  if ← mark? "..=" then return some true
  if ← mark? "..." then return some true
  if ← mark? ".." then return some false
  return none

/-- One end of a range. -/
def rangeEnd : Parser Unit := do
  if ← atLiteral then discard literal
  else if ← word? "const" then g.block
  else discard (qualifiedPath g true)

/-- The rest of a range of values behind its start, if it is a range. -/
def restOfRange : Parser Unit := do
  match ← rangeMark? with
  | some true => rangeEnd g
  | some false => if !(← atRangeEnd) then rangeEnd g
  | none => return

/-- A field in the pattern of a structure. -/
def fieldPattern : Parser Unit := do
  attributes g
  if ← mark? ".." then return
  match ← ahead with
  | t :: .mark ':' _ :: _ =>
    if isWord t then
      discard next
      mark ":"
      alternatives g
    else
      discard literal
      mark ":"
      alternatives g
  | _ =>
    discard (word? "box")
    discard (word? "ref")
    discard (word? "mut")
    discard identifier

/-- A pattern that starts with a path. -/
def pathPattern : Parser Unit := do
  let (qualified, p) ← qualifiedPath g true
  if !qualified && (← atMark "!") && !(← atMark "!=") && p.isPlain then
    mark "!"
    discard group
  else if ← atOpening .brace then discard (inside .brace (listed (fieldPattern g)))
  else if ← atOpening .paren then discard (inside .paren (listed (alternatives g)))
  else restOfRange g

/-- Whether a word starts a path or a range, and not a name for what is matched. -/
def startsPathPattern : List Token → Bool
  | t :: ts =>
    isIdentifier t && (startsWith [':', ':'] ts || startsWith ['!'] ts || startsWith ['.', '.'] ts
        || ts.head? = some (.opening .brace) || ts.head? = some (.opening .paren))
      || t = .word "self" && startsWith [':', ':'] ts
      || t = .word "Self" || t = .word "super" || t = .word "crate"
  | [] => false

/-- A pattern without alternatives. -/
def pattern : Parser Unit := do
  if startsPathPattern (← ahead) || (← atMark "::") || (← atMark "<") then pathPattern g
  else if ← word? "_" then return
  else if ← word? "box" then g.pattern
  else if (← atLiteral) || (← atWord "const") then
    rangeEnd g
    restOfRange g
  else if ← mark? "&" then
    discard (word? "mut")
    g.pattern
  else if ← atOpening .paren then discard (inside .paren (listed (alternatives g)))
  else if ← atOpening .bracket then discard (inside .bracket (listed (alternatives g)))
  else if ← atMark ".." then restOfRange g
  else
    discard (word? "ref")
    discard (word? "mut")
    if ← atWord "self" then word "self" else discard identifier
    if ← mark? "@" then g.pattern

end

end Parser
end Source
end Loadable
