/-
# Functions on reals
-/

import Loadable.Decimal.Fixed
import Loadable.Decimal.Reader
import Loadable.Routine

namespace Loadable
namespace Functions

/-- The long side of a right triangle with the arguments as short sides; NULL if either is. -/
def hypotenuse : Routine Unit where
  returns := ⟨.real, true⟩
  init p args :=
    if args.length ≠ 2 then ⟨p, .err s!"hypotenuse takes 2 arguments, got {args.length}", []⟩
    else ⟨(p.askAll .real).set (.decimals 4), .ok (), []⟩
  process s _ args _ :=
    match Argument.realAt? args 0, Argument.realAt? args 1 with
    | some a, some b => ⟨s, .ok (some (a.hypotenuse b)), []⟩
    | _, _ => ⟨s, .ok none, []⟩

/-- Half of a decimal, with two places; an error if the text is no number. -/
def halveDecimal : Routine Unit where
  returns := ⟨.owned, true⟩
  init p args :=
    if args.isEmpty then ⟨p, .err "halve_decimal takes one argument", []⟩
    else ⟨(p.ask 0 .decimal).set (.decimals 2), .ok (), []⟩
  process s _ args _ :=
    match args[0]? with
    | none => ⟨s, .err (), []⟩
    | some a =>
      match a.value with
      | .decimal none => ⟨s, .ok none, []⟩
      | .decimal (some text) =>
        match Decimal.readReal? text.toList with
        | some d => ⟨s, .ok (some (Utf8.encode (Decimal.fixed 2 (d / Double.ofInt 2)))), []⟩
        | none => ⟨s, .err (), []⟩
      | _ => ⟨s, .err (), []⟩

end Functions
end Loadable
