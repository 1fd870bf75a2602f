/-
# Refusals

Why nothing is registered for an implementation.
-/

namespace Loadable
namespace Registration

/-- Why an implementation is not registered. -/
inductive Refusal where
  /-- The value of an argument is not the literal of a text. -/
  | notText
  | repeatedName
  | unknownArgument
  /-- The implementation is not for one of the traits of functions. -/
  | otherTrait
  | genericImplementation
  /-- The type has no name of its own. -/
  | unnamedType
  /-- A symbol would not be an identifier. -/
  | invalidSymbol (text : String)
  /-- What the function returns is not said. -/
  | missingReturns
  deriving DecidableEq, Repr

/-- What a refusal says. -/
def Refusal.message : Refusal → String
  | notText => "expected a string literal"
  | repeatedName => "`name` may only be given once"
  | unknownArgument => "unknown argument, expected `name` or `alias`"
  | otherTrait => "expected trait `BasicUdf` or `AggregateUdf`"
  | genericImplementation => "`#[register]` cannot be used on generic impls"
  | unnamedType => "expected a path to a struct or enum"
  | invalidSymbol text => "`" ++ text ++ "` is not a valid symbol name"
  | missingReturns => "missing `type Returns`"

/-- Why a source text registers nothing: it cannot be read, or what it says is refused. -/
inductive Failure where
  | malformed
  | refused (r : Refusal)
  deriving DecidableEq, Repr

end Registration
end Loadable
