/-
# Parsing tokens

A parser reads tokens from the front of a list and may fail.  What it reads it also writes, to an
output that is the same but where the parser orders it otherwise; so a construct is at hand both as
what it means and as it is written back.
-/

import Loadable.Source.Token

namespace Loadable
namespace Source

/-- The tokens still to be read, and those written, the last one first. -/
structure Cursor where
  rest : List Token
  written : List Token

/-- A parser of something. -/
abbrev Parser (α : Type) := StateT Cursor Option α

namespace Parser

variable {α β : Type}

/-- The tokens still to be read. -/
def ahead : Parser (List Token) := fun c => some (c.rest, c)

/-- Read a token and write it. -/
def next : Parser Token := fun c =>
  match c.rest with
  | t :: ts => some (t, ⟨ts, t :: c.written⟩)
  | [] => none

/-- Read a token without writing it. -/
def skip : Parser Unit := fun c =>
  match c.rest with
  | _ :: ts => some ((), ⟨ts, c.written⟩)
  | [] => none

/-- Write tokens. -/
def write (ts : List Token) : Parser Unit := fun c => some ((), ⟨c.rest, ts.reverse ++ c.written⟩)

/-- What a parser reads, and what it would write; nothing is written. -/
def held (p : Parser α) : Parser (α × List Token) := fun c =>
  (p ⟨c.rest, []⟩).map fun (a, c') => ((a, c'.written.reverse), ⟨c'.rest, c.written⟩)

/-- What a parser reads and what it writes. -/
def captured (p : Parser α) : Parser (α × List Token) := do
  let (a, ts) ← held p
  write ts
  return (a, ts)

/-- Read and write a token that is as it should be. -/
def token (p : Token → Bool) : Parser Token := do
  match ← ahead with
  | t :: _ => if p t then next else failure
  | [] => failure

/-- Whether tokens start with a mark of several characters, all of which but the last are joined to
the next. -/
def startsWith : List Char → List Token → Bool
  | [], _ => true
  | [c], .mark d _ :: _ => c = d
  | c :: cs, .mark d joint :: ts => c = d && joint && startsWith cs ts
  | _, _ => false

/-- Whether a mark comes next. -/
def atMark (s : String) : Parser Bool := return startsWith s.toList (← ahead)

/-- Whether a keyword or another given word comes next. -/
def atWord (s : String) : Parser Bool := return (← ahead).head? = some (.word s)

/-- Whether one of some words comes next. -/
def atOneOf (ss : List String) : Parser Bool := return (← ahead).head?.any fun
  | .word s => ss.contains s
  | _ => false

/-- Whether the token is an identifier. -/
def isIdentifier : Token → Bool
  | .word s => !isKeyword s
  | _ => false

/-- Whether the token is a word of any kind. -/
def isWord : Token → Bool
  | .word _ => true
  | _ => false

def isLifetime : Token → Bool
  | .lifetime _ => true
  | _ => false

/-- Whether tokens start with a literal, which includes the truth values and negative numbers. -/
def startsLiteral : List Token → Bool
  | .literal _ :: _ => true
  | .word s :: _ => s = "true" || s = "false"
  | .mark '-' _ :: .literal l :: _ => l.kind = .number
  | _ => false

/-- Whether an identifier comes next. -/
def atIdentifier : Parser Bool := return (← ahead).head?.any isIdentifier

def atLifetime : Parser Bool := return (← ahead).head?.any isLifetime

def atLiteral : Parser Bool := return startsLiteral (← ahead)

def atOpening (d : Delimiter) : Parser Bool := return (← ahead).head? = some (.opening d)

/-- Whether the innermost delimiters, or the whole text, end here. -/
def atEnd : Parser Bool := return (← ahead).head?.all fun
  | .closing _ => true
  | _ => false

/-- Read a mark. -/
def mark (s : String) : Parser Unit := do
  if ← atMark s then s.toList.forM fun _ => discard next else failure

/-- Read a word. -/
def word (s : String) : Parser Unit := discard (token (· = .word s))

/-- Read any word. -/
def anyWord : Parser String := do
  match ← token isWord with
  | .word s => return s
  | _ => failure

/-- Read an identifier. -/
def identifier : Parser String := do
  match ← token isIdentifier with
  | .word s => return s
  | _ => failure

def lifetime : Parser Unit := discard (token isLifetime)

/-- Read a literal. -/
def literal : Parser (Option Literal) := do
  match ← ahead with
  | .literal l :: _ => discard next; return some l
  | ts =>
    if startsLiteral ts then
      if ← atMark "-" then discard next
      discard next
      return none
    else failure

/-- Read something if a condition holds. -/
def onlyIf (condition : Parser Bool) (p : Parser α) : Parser (Option α) := do
  if ← condition then return some (← p) else return none

/-- Read a mark if it is there. -/
def mark? (s : String) : Parser Bool := return (← onlyIf (atMark s) (mark s)).isSome

/-- Read a word if it is there. -/
def word? (s : String) : Parser Bool := return (← onlyIf (atWord s) (word s)).isSome

/-- Read what stands between delimiters, all of it. -/
def inside (d : Delimiter) (p : Parser α) : Parser α := do
  discard (token (· = .opening d))
  let a ← p
  discard (token (· = .closing d))
  return a

/-- What was read is over unless tokens were used up: go on with the rest only then. -/
def repeatFrom (step : Parser (Option α)) (c : Cursor) : Option (List α × Cursor) :=
  match step c with
  | none => none
  | some (none, c') => some ([], c')
  | some (some a, c') =>
    if c'.rest.length < c.rest.length then
      (repeatFrom step c').map fun (as, c'') => (a :: as, c'')
    else none
termination_by c.rest.length

/-- Repeat a step until it says that there is nothing more. -/
def repeated (step : Parser (Option α)) : Parser (List α) := repeatFrom step

/-- Repeat while a condition holds. -/
def whileTrue (condition : Parser Bool) (p : Parser α) : Parser (List α) :=
  repeated (onlyIf condition p)

/-- Things with a mark between any two, until `stop` holds before one of them or one has no mark
behind it.  Each comes with whether a mark is behind it. -/
def separated (s : String) (stop : Parser Bool) (p : Parser α) : Parser (List (α × Bool)) := do
  let items ← repeated do
    if ← stop then return none
    let a ← p
    let more ← if ← stop then pure false else mark? s
    return some (a, more)
  -- only the last one may lack its mark
  if items.dropLast.all (·.2) then return items else failure

/-- Things with a mark between any two, as long as there are such marks and `stop` does not hold
before one of the things. -/
def joined (s : String) (stop : Parser Bool) (p : Parser Unit) : Parser Unit := do
  unless ← stop do
    p
    discard <| repeated do
      if ← mark? s then
        if ← stop then return none
        p
        return some ()
      else return none

/-- Things with commas between, up to the end; a comma may be behind the last. -/
def listed (p : Parser α) : Parser (List α) := do
  let items ← separated "," atEnd p
  return items.map Prod.fst

/-- How many tokens a group at the front takes, `depth` delimiters being open. -/
def groupLength (depth : Nat) : List Token → Nat
  | [] => 0
  | .opening _ :: ts => groupLength (depth + 1) ts + 1
  | .closing _ :: ts => if depth ≤ 1 then 1 else groupLength (depth - 1) ts + 1
  | _ :: ts => if depth = 0 then 1 else groupLength depth ts + 1

/-- Read a token or a whole group. -/
def tree : Parser Unit := do
  let ts ← ahead
  if ← atEnd then failure else (ts.take (groupLength 0 ts)).forM fun _ => discard next

/-- Read the rest of what is between delimiters. -/
def toEnd : Parser Unit := discard (whileTrue (return !(← atEnd)) tree)

/-- Read a group with any delimiters. -/
def group : Parser Delimiter := do
  match (← ahead).head? with
  | some (.opening d) => tree; return d
  | _ => failure

/-- The tokens behind the group at the front. -/
def behindGroup (ts : List Token) : List Token := ts.drop (groupLength 0 ts)

/-- What a parser makes of all tokens. -/
def parse? (p : Parser α) (ts : List Token) : Option α := do
  let (a, c) ← p ⟨ts, []⟩
  if c.rest.isEmpty then some a else none

end Parser
end Source
end Loadable
