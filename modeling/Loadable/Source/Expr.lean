/-
# Reading expressions

Operators with their operands, and what an operand can be.  Nothing is kept of an expression but
whether it is a lone string literal, and then its text.
-/

import Loadable.Source.Generics
import Loadable.Source.Pattern

namespace Loadable
namespace Source
namespace Parser

/-- A group of operators. -/
inductive Operator where
  | assignment
  | range
  | logical
  | comparison
  | arithmetic
  | cast
  deriving DecidableEq, Repr

/-- Whether an operator may stand where some tightness is asked for. -/
def admits : Tightness → Operator → Bool
  | .all, _ => true
  | .insideRange, o => o ≠ .assignment && o ≠ .range
  | .comparison, o => o ≠ .assignment && o ≠ .range && o ≠ .logical

/-- The operators of marks, those first that others start. -/
def operatorMarks : List (String × Operator) :=
  [("+=", .assignment), ("-=", .assignment), ("*=", .assignment), ("/=", .assignment),
    ("%=", .assignment), ("^=", .assignment), ("&=", .assignment), ("|=", .assignment),
    ("<<=", .assignment), (">>=", .assignment), ("&&", .logical), ("||", .logical),
    ("<<", .arithmetic), (">>", .arithmetic), ("==", .comparison), ("<=", .comparison),
    ("!=", .comparison), (">=", .comparison), ("+", .arithmetic), ("-", .arithmetic),
    ("*", .arithmetic), ("/", .arithmetic), ("%", .arithmetic), ("^", .arithmetic),
    ("&", .arithmetic), ("|", .arithmetic), ("<", .comparison), (">", .comparison),
    ("..", .range)]

/-- The operator that tokens start with, and its marks.  An arrow is none. -/
def operator? (ts : List Token) : Option (String × Operator) :=
  if ts.head? = some (.word "as") then some ("as", .cast)
  else
    match operatorMarks.find? fun (s, _) => startsWith s.toList ts with
    | some o => some o
    | none =>
      if startsWith ['='] ts && !startsWith ['=', '>'] ts then some ("=", .assignment) else none

/-- Whether an expression may come next. -/
def atExpr : Parser Bool := do
  let lone (s : String) (others : List String) : Parser Bool := do
    let ts ← ahead
    return startsWith s.toList ts && !others.any fun o => startsWith o.toList ts
  return (← ahead).head?.any isWord || (← atLiteral) || (← atLifetime) || (← atOpening .paren)
    || (← atOpening .bracket) || (← atOpening .brace) || (← lone "!" ["!="])
    || (← lone "-" ["-=", "->"]) || (← lone "*" ["*="]) || (← lone "|" ["|="])
    || (← lone "&" ["&="]) || (← atMark "..") || (← lone "<" ["<=", "<<="]) || (← atMark "::")
    || (← atMark "#")

section
variable (g : Grammar)

/-- Whether a range has no end here. -/
def atOpenRange (fields : Bool) : Parser Bool := do
  return (← atEnd) || (← atMark ",") || (← atMark ";") || ((← atMark ".") && !(← atMark ".."))
    || (← atMark "?") || (← atMark "=") || (!fields && (← atOpening .brace))

/-- The sign of a range and its end, if it has one. -/
def rangeTail (fields : Bool) : Parser Unit := do
  let closed ← mark? "..="
  if !closed then mark ".."
  if closed || !(← atOpenRange fields) then
    if (← g.operand fields) ≠ .range then discard (g.operations fields .insideRange false)

/-- Operators and operands behind a first operand.  Comparisons do not stand side by side, and
nothing follows a range. -/
def operations (fields : Bool) (tightness : Tightness) (compared : Bool) : Parser Bool := do
  match operator? (← ahead) with
  | none => return false
  | some (s, o) =>
    if !admits tightness o then return false
    match o with
    | .range => rangeTail g fields
    | .cast =>
      word "as"
      discard (g.type false)
      discard (g.operations fields tightness compared)
    | _ =>
      if o = .comparison && compared then failure
      mark s
      if (← g.operand fields) ≠ .range then
        discard (g.operations fields tightness
          (o = .comparison || (o = .arithmetic && compared)))
    return true

/-- An expression. -/
def expr (fields : Bool) : Parser (Option String) := do
  match ← g.operand fields with
  | .range => return none
  | .string s => return if ← g.operations fields .all false then none else some s
  | .other =>
    discard (g.operations fields .all false)
    return none

/-- A member behind a point, and what is called. -/
def member : Parser Unit := do
  if ← atLiteral then discard literal
  else if !(← word? "await") then
    discard identifier
    if ← atMark "::" then discard (angledArguments g)
    if ← atOpening .paren then discard (inside .paren (listed (g.expr true)))

/-- One thing behind an operand that binds to it first. -/
def trailer : Parser (Option Unit) := do
  if ← atOpening .paren then
    discard (inside .paren (listed (g.expr true)))
    return some ()
  if ← atOpening .bracket then
    discard (inside .bracket (g.expr true))
    return some ()
  if (← atMark ".") && !(← atMark "..") then
    mark "."
    member g
    return some ()
  if ← mark? "?" then return some ()
  return none

/-- All that binds to an operand first.  Says whether there is anything. -/
def trailers : Parser Bool := return !(← repeated (trailer g)).isEmpty

/-- Fields in braces. -/
def fields : Parser Unit := do
  let parts ← separated "," atEnd do
    if ← mark? ".." then
      if !(← atEnd) then discard (g.expr true)
      return true
    attributes g
    let named ← atIdentifier
    if named then discard identifier else discard literal
    if ← mark? ":" then discard (g.expr true) else unless named do failure
    return false
  -- what the rest comes from stands last, and has no comma
  if parts.dropLast.any (·.1) || parts.getLast?.any (fun p => p.1 && p.2) then failure

/-- An operand that starts with a path. -/
def pathOperand (withFields : Bool) : Parser Unit := do
  let (qualified, p) ← qualifiedPath g true
  if !qualified && (← atMark "!") && !(← atMark "!=") && p.isPlain then
    mark "!"
    discard group
  else if withFields && (← atOpening .brace) then inside .brace (fields g)

/-- Whether tokens start with lifetimes bound for a function, and not with a loop. -/
def startsBound : List Token → Bool
  | .word "for" :: .mark '<' _ :: .lifetime _ :: _ => true
  | .word "for" :: .mark '<' _ :: .mark '>' _ :: _ => true
  | _ => false

/-- Whether a function without a name comes next. -/
def atClosure : Parser Bool := do
  if startsBound (← ahead) then return true
  match ← ahead with
  | .word "const" :: .opening .brace :: _ => return false
  | .word "const" :: _ => return true
  | .word "async" :: .mark '|' _ :: _ => return true
  | .word "async" :: .word "move" :: .opening .brace :: _ => return false
  | .word "async" :: .word "move" :: _ => return true
  | .word w :: _ => return w = "move" || w = "static"
  | ts => return startsWith ['|'] ts

/-- A function without a name. -/
def closure (withFields : Bool) : Parser Unit := do
  discard boundLifetimes
  for w in ["const", "static", "async", "move"] do discard (word? w)
  mark "|"
  discard <| separated "," (atMark "|") do
    attributes g
    g.pattern
    if ← mark? ":" then discard (g.type true)
  mark "|"
  if ← mark? "->" then
    discard (g.type true)
    g.block
  else discard (g.expr withFields)

/-- Members in brackets, or one member and how often it stands there. -/
def arrayBody : Parser Unit := do
  unless ← atEnd do
    discard (g.expr true)
    if ← mark? ";" then discard (g.expr true)
    else if ← mark? "," then discard (listed (g.expr true))

/-- Whether an expression comes next that needs no semicolon behind it. -/
def atBlockLike : Parser Bool := do
  if startsBound (← ahead) then return false
  match ← ahead with
  | .word w :: .opening .brace :: _ =>
    return ["if", "while", "for", "loop", "match", "try", "unsafe", "const"].contains w
  | .word w :: _ => return ["if", "while", "for", "loop", "match", "unsafe"].contains w
  | .opening .brace :: _ => return true
  | .lifetime _ :: _ => return true
  | _ => return false

/-- One way out of a `match`. -/
def matchArm : Parser Unit := do
  attributes g
  alternatives g
  if ← word? "if" then discard (g.expr true)
  mark "=>"
  let needy ← g.leading
  if needy && !(← atEnd) then mark "," else discard (mark? ",")

/-- An expression that needs no semicolon behind it. -/
def blockLike : Parser Unit := do
  if ← atLifetime then
    lifetime
    mark ":"
  match (← ahead).head? with
  | some (.word "if") =>
    word "if"
    discard (g.expr false)
    g.block
    if ← word? "else" then
      if ← atWord "if" then discard (g.operand true) else g.block
  | some (.word "while") =>
    word "while"
    discard (g.expr false)
    g.block
  | some (.word "for") =>
    word "for"
    alternatives g
    word "in"
    discard (g.expr false)
    g.block
  | some (.word "match") =>
    word "match"
    discard (g.expr false)
    inside .brace do
      innerAttributes g
      discard (whileTrue (return !(← atEnd)) (matchArm g))
  | some (.word w) =>
    unless ["loop", "try", "unsafe", "const"].contains w do failure
    word w
    g.block
  | _ => g.block

/-- An operand that starts with a keyword of its own. -/
def keywordOperand (withFields : Bool) : Parser Unit := do
  match ← anyWord with
  | "async" =>
    discard (word? "move")
    g.block
  | "break" =>
    discard (onlyIf atLifetime lifetime)
    if (← atExpr) && (withFields || !(← atOpening .brace)) then discard (g.expr withFields)
  | "continue" => discard (onlyIf atLifetime lifetime)
  | "return" => if ← atExpr then discard (g.expr true)
  | "yield" => if ← atExpr then discard (g.expr true)
  | "become" => discard (g.expr true)
  | "let" =>
    alternatives g
    mark "="
    if (← g.operand false) ≠ .range then discard (g.operations false .comparison false)
  | "_" => return
  | _ => failure

/-- Whether a path comes next. -/
def atPath : Parser Bool := do
  match ← ahead with
  | .word "try" :: .mark '!' _ :: _ => return true
  | .word "try" :: .mark ':' true :: _ => return true
  | _ => return (← atPathWord) || (← atMark "::") || (← atMark "<")

/-- The innermost part of an operand. -/
def atom (withFields : Bool) : Parser Operand := do
  if ← atLiteral then
    match ← literal with
    | some ⟨_, .string s⟩ => return .string s
    | _ => return .other
  if ← atClosure then closure g withFields
  else if ← atPath then pathOperand g withFields
  else if ← atBlockLike then blockLike g
  else if ← atOpening .paren then discard (inside .paren (listed (g.expr true)))
  else if ← atOpening .bracket then inside .bracket (arrayBody g)
  else if ← atMark ".." then
    rangeTail g withFields
    return .range
  else keywordOperand g withFields
  return .other

/-- An operand with its prefix operators and all that binds to it. -/
def operand (withFields : Bool) : Parser Operand := do
  attributes g
  if ← mark? "&" then
    match ← ahead with
    | .word "raw" :: .word w :: _ =>
      if w = "const" || w = "mut" then discard next; discard next
    | _ => discard (word? "mut")
    discard (g.operand withFields)
    return .other
  if (← mark? "*") || (← mark? "!") || (← mark? "-") then
    discard (g.operand withFields)
    return .other
  match ← atom g withFields with
  | .range => return .range
  | o => return if ← trailers g then .other else o

end

end Parser
end Source
end Loadable
