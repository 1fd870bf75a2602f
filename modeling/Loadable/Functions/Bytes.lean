/-
# Functions on bytes

They read their arguments as bytes, in UTF-8 or not.
-/

import Loadable.Routine

namespace Loadable
namespace Functions

/-- The bytes of a value: those of a string or a decimal, the eight of a number, none of NULL. -/
def rawBytes : Value → Bytes
  | .string v => v.getD []
  | .real v => (v.map Double.toBytes).getD []
  | .int v => (v.map intBytes).getD []
  | .decimal v => (v.map Utf8.encode).getD []

/-- The bytes of all arguments, one after the other; NULL if there are none. -/
def mishmash : Routine Bytes where
  returns := ⟨.borrowed, true⟩
  init p _ := ⟨p, .ok [], []⟩
  process _ _ args _ :=
    let bytes := args.flatMap fun a => rawBytes a.value
    ⟨bytes, .ok (if bytes.isEmpty then none else some (.reference (.bytes bytes))), []⟩

/-- The bytes of the first argument in reverse order. -/
def reverseBytes : Routine Unit where
  returns := ⟨.owned, false⟩
  init p _ := ⟨p, .ok (), []⟩
  process s _ args _ := ⟨s, .ok ((Argument.bytesAt? args 0).getD []).reverse, []⟩

/-- The bytes of the first argument. -/
def ownBytes : Routine Unit where
  returns := ⟨.owned, true⟩
  init p _ := ⟨p, .ok (), []⟩
  process s _ args _ := ⟨s, .ok (Argument.bytesAt? args 0), []⟩

/-- As many bytes of the first argument as the second says. -/
def takeBytes : Routine Unit where
  returns := ⟨.owned, false⟩
  init p _ := ⟨p.ask 1 .int, .ok (), []⟩
  process s _ args _ :=
    let n := ((Argument.intAt? args 1).getD 0).toInt.toNat
    ⟨s, .ok (((Argument.bytesAt? args 0).getD []).take n), []⟩

end Functions
end Loadable
