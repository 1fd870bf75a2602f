/-
# Outputs

What the server makes of one call for a value: the error flag beats the NULL flag, which beats the
value.  A string that the server reads where it is no more may be any bytes at all.
-/

import Loadable.Datum
import Loadable.Handler

namespace Loadable

/-- What one call for a value came to. -/
inductive Output where
  | int (v : Int64)
  | real (v : Double)
  | bytes (v : Bytes)
  /-- Read at a pointer to what is no more. -/
  | undefined
  | null
  | error
  deriving DecidableEq, Repr

namespace Output

/-- The output as messages show it. -/
def text : Output → String
  | int v => Value.intText v
  | real v => Decimal.plain.write v
  | bytes v => "'" ++ Utf8.lossy v ++ "'"
  | undefined => "<undefined>"
  | null => "NULL"
  | error => "<error>"

/-- The text of bytes in UTF-8. -/
def toText? : Output → Option String
  | bytes v => Utf8.decode? v
  | _ => none

/-- The output of an integer, a real or a string that is not NULL. -/
def ofDatum? : Datum → Option Output
  | .int (some v) => some (int v)
  | .real (some v) => some (real v)
  | .string (some s) => some (bytes (Utf8.encode s))
  | _ => none

/-- Whether an output is as expected; reals may differ a little. -/
def agrees : Output → Output → Bool
  | real got, real want => got.closeTo want
  | got, want => got = want

/-- The value that the server reads where a call put it. -/
def ofReturned (returned : Returned) (area : ResultArea) : Output :=
  match returned with
  | .int v => int v
  | .real v => real v
  | .string .null => null
  | .string p =>
    match area.read p with
    | some v => bytes v
    | none => undefined

/-- The output of a call. -/
def ofReply {σ : Type} (reply : ProcessReply σ) : Output :=
  if reply.flags.error.getD 0 ≠ 0 then error
  else if reply.flags.isNull.getD 0 ≠ 0 then null
  else ofReturned reply.returned reply.area

end Output
end Loadable
