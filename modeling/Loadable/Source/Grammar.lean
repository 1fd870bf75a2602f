/-
# The grammar

Types, expressions, patterns and statements hold one another.  The parsers of each kind are written
for a given `Grammar`, which they call for the parts inside; the grammar of texts nested `n + 1` deep
comes from that of texts nested `n` deep.
-/

import Loadable.Source.Parser
import Loadable.Source.TypeExpr

namespace Loadable
namespace Source

/-- What an operand was, as far as it matters. -/
inductive Operand where
  /-- A lone string literal, with its text. -/
  | string (value : String)
  /-- A range without a start, behind which no operator stands. -/
  | range
  | other
  deriving DecidableEq, Repr

/-- How tightly operators bind that may stand somewhere. -/
inductive Tightness where
  /-- Any operator. -/
  | all
  /-- Those that bind tighter than a range. -/
  | insideRange
  /-- Those that bind at least like a comparison. -/
  | comparison
  deriving DecidableEq, Repr

/-- The parsers that others call for parts of their own kind.  Where an expression takes a `Bool`, it
says whether a brace behind a path holds the fields of a structure. -/
structure Grammar where
  /-- A path; its arguments need no colons. -/
  path : Parser Path
  /-- A type; the parameter says whether it may have several bounds. -/
  type : Bool → Parser TypeExpr
  /-- An expression; the text of a lone string literal. -/
  expr : Bool → Parser (Option String)
  /-- An operand with its prefix operators. -/
  operand : Bool → Parser Operand
  /-- Operators and operands behind a first operand; the last parameter says whether a comparison
  stands before.  Says whether there were any. -/
  operations : Bool → Tightness → Bool → Parser Bool
  /-- An expression as a statement or behind an arrow; whether something must follow it. -/
  leading : Parser Bool
  /-- A pattern without alternatives. -/
  pattern : Parser Unit
  /-- Statements in braces. -/
  block : Parser Unit

/-- The grammar of nothing. -/
def Grammar.empty : Grammar where
  path := failure
  type _ := failure
  expr _ := failure
  operand _ := failure
  operations _ _ _ := failure
  leading := failure
  pattern := failure
  block := failure

end Source
end Loadable
