/-
# Names of symbols

Exported functions are called like the function that they serve, with endings that tell them apart.
The name with the ending has to read as an identifier.
-/

import Loadable.Registration.Refusal
import Loadable.Source.Lexer

namespace Loadable
namespace Registration

/-- The identifier that a text reads as. -/
def identifier? (s : String) : Option String :=
  match Source.tokens? s with
  | some [.word w] => if Source.isKeyword w then none else some w
  | _ => none

/-- The identifier of a function for an ending, which names its symbol.  A raw identifier is given with its
`r#`, of which there is nothing in the symbol of a library. -/
def symbolName (name ending : String) : Except Refusal String :=
  match identifier? (name ++ ending) with
  | some s => .ok s
  | none => .error (.invalidSymbol (name ++ ending))

end Registration
end Loadable
