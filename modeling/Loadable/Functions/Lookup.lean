/-
# Addresses of hosts

`lookup6` gives the address of a host.  A literal address is its own; for all else a resolver of names is
asked.
-/

import Loadable.Address
import Loadable.Routine

namespace Loadable
namespace Functions

/-- An address that a resolver finds: of two groups, or of eight. -/
inductive HostAddress where
  | short (high low : UInt16)
  | long (a : Address)
  deriving DecidableEq, Repr

namespace HostAddress

/-- The address in eight groups. -/
def toAddress : HostAddress → Address
  | short g h => .mapped g h
  | long a => a

def isLong : HostAddress → Bool
  | short _ _ => false
  | long _ => true

end HostAddress

/-- A resolver of names: the addresses of a host, `none` if it fails. -/
abbrev Resolver := String → Option (List HostAddress)

/-- Of the addresses of a host the first long one, or else the first. -/
def preferred? (found : List HostAddress) : Option Address :=
  ((found.find? (·.isLong)).or found.head?).map (·.toAddress)

/-- The address of a host: its own if it is a literal, else the preferred one of its name. -/
def resolve? (resolver : Resolver) (host : String) : Option Address :=
  (Address.read? host).or ((resolver host).bind preferred?)

/-- The greatest length of an address in text. -/
def addressLength : UInt32 := 39

/-- The address of the host that the one argument names. -/
def lookup6 (resolver : Resolver) : Routine Unit where
  returns := ⟨.owned, true⟩
  init p args :=
    match args with
    | [a] =>
      if a.value.type ≠ .string then
        ⟨p, .err ("expected string argument; got " ++ a.value.type.displayName), []⟩
      else ⟨{ p with settings := p.settings.setMaxLength addressLength }, .ok (), []⟩
    | _ => ⟨p, .err s!"expected 1 argument; got {args.length}", []⟩
  process s _ args _ :=
    ⟨s, .ok (((Argument.textAt? args 0).bind (resolve? resolver)).map
      fun a => Utf8.encode a.write), []⟩

end Functions
end Loadable
