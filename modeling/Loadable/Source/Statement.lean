/-
# Reading statements

Statements in braces.  Expressions that end in a brace need no semicolon behind them, and neither
does the last expression of a block.  Of a definition among the statements only the extent is read.
-/

import Loadable.Source.Expr

namespace Loadable
namespace Source
namespace Parser

section
variable (g : Grammar)

/-- An expression as a statement or behind an arrow.  Says whether something must follow it. -/
def leading : Parser Bool := do
  attributes g
  if ← atBlockLike then
    blockLike g
    if ((← atMark ".") && !(← atMark "..")) || (← atMark "?") then
      discard (trailers g)
      discard (g.operations true .all false)
      return true
    else return false
  else
    if (← g.operand true) ≠ .range then discard (g.operations true .all false)
    return true

/-- Who may see a definition. -/
def visibility : Parser Bool := do
  if ← word? "pub" then
    match ← ahead with
    | .opening .paren :: .word w :: .closing .paren :: _ =>
      if ["crate", "self", "super"].contains w then discard group
    | .opening .paren :: .word "in" :: _ =>
      inside .paren do
        word "in"
        discard plainPath
    | _ => return true
    return true
  else return false

/-- The words that start a definition. -/
def definitionWords : List String :=
  ["pub", "extern", "use", "fn", "mod", "type", "struct", "enum", "trait", "impl", "macro"]

/-- Whether a definition comes next. -/
def atDefinition : Parser Bool := do
  match ← ahead with
  | .word "static" :: .word w :: _ => return w ≠ "async" && w ≠ "move"
  | .word "const" :: .opening .brace :: _ => return false
  | .word "const" :: .mark _ _ :: _ => return false
  | .word "const" :: .word w :: _ => return w ≠ "static" && w ≠ "move"
  | .word "unsafe" :: .word _ :: _ => return true
  | .word "async" :: .word w :: _ => return w = "unsafe" || w = "extern" || w = "fn"
  | .word "union" :: .word w :: _ => return !isKeyword w
  | .word "auto" :: .word "trait" :: _ => return true
  | .word "crate" :: ts => return !startsWith [':', ':'] ts
  | .word w :: _ => return definitionWords.contains w
  | _ => return false

/-- Whether a definition ends in a semicolon only, and not in a brace. -/
def atSemicolonDefinition : Parser Bool := do
  match ← ahead with
  | .word "const" :: .word w :: _ => return !(["fn", "unsafe", "extern", "async"].contains w)
  | .word w :: _ => return ["static", "type", "use"].contains w
  | _ => return false

/-- Trees up to one after which the definition is over. -/
def definition : Parser Unit := do
  discard visibility
  let braced := !(← atSemicolonDefinition)
  discard <| whileTrue (return !(← atMark ";") && !(braced && (← atOpening .brace))) tree
  if ← atOpening .brace then discard group else mark ";"

/-- A name for what an expression gives. -/
def letStatement : Parser Unit := do
  word "let"
  g.pattern
  if ← mark? ":" then discard (g.type true)
  if ← mark? "=" then
    discard (g.expr true)
    if ← word? "else" then g.block
  mark ";"

/-- Whether a macro is called that stands for a definition, or one with braces as a statement. -/
def atMacroStatement : Parser Bool := do
  let look : Parser Bool := do
    discard plainPath
    match ← ahead with
    | .mark '!' _ :: .word w :: _ => return !isKeyword w || w = "try"
    | .mark '!' _ :: .opening .brace :: _ =>
      mark "!"
      discard group
      return !(((← atMark ".") && !(← atMark "..")) || (← atMark "?"))
    | _ => return false
  let c ← get
  return (look c).any (·.1)

/-- A statement.  Says whether something must follow it. -/
def statement : Parser Bool := do
  attributes g
  if ← atMacroStatement then
    discard plainPath
    mark "!"
    discard (onlyIf (return (← ahead).head?.any isWord) anyWord)
    if (← group) = .brace then discard (mark? ";") else mark ";"
    return false
  if ← atWord "let" then
    letStatement g
    return false
  if ← atDefinition then
    definition
    return false
  let needy ← leading g
  if ← mark? ";" then return false else return needy

/-- Statements up to the end. -/
def statements : Parser Unit := do
  discard <| repeated do
    discard (whileTrue (atMark ";") (mark ";"))
    if ← atEnd then return none
    let needy ← statement g
    if needy && !(← atEnd) then failure
    return some ()

/-- Statements in braces. -/
def block : Parser Unit := inside .brace do
  innerAttributes g
  statements g

end

end Parser

/-- The grammar of texts nested one deeper than those of a given grammar. -/
def Grammar.deeper (g : Grammar) : Grammar where
  path := Parser.path g false
  type := Parser.typeExpr g
  expr := Parser.expr g
  operand := Parser.operand g
  operations := Parser.operations g
  leading := Parser.leading g
  pattern := Parser.pattern g
  block := Parser.block g

/-- The grammar of texts of a depth of nesting. -/
def Grammar.ofDepth : Nat → Grammar
  | 0 => empty
  | n + 1 => (ofDepth n).deeper

/-- A grammar deep enough for a list of tokens: what is inside something has fewer tokens. -/
def Grammar.for (ts : List Token) : Grammar := ofDepth (2 * ts.length + 8)

end Source
end Loadable
