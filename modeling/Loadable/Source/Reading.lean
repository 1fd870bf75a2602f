/-
# Reading source text

A text is read as a whole: as its tokens, and these as one construct with nothing behind it.
-/

import Loadable.Source.Implementation
import Loadable.Source.Lexer

namespace Loadable
namespace Source

/-- What a parser makes of all tokens of a text. -/
def read? {α : Type} (p : Grammar → Parser α) (ts : List Token) : Option α :=
  (p (Grammar.for ts)).parse? ts

/-- A type. -/
def type? (s : String) : Option TypeExpr :=
  (tokens? s).bind (read? fun g => Parser.typeExpr g true)

/-- A path. -/
def path? (s : String) : Option Path :=
  (tokens? s).bind (read? fun g => Parser.path g false)

end Source
end Loadable
