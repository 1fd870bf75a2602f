/-
# Values

A typed value that may be NULL.  A string is any bytes; a decimal arrives as its text.  `toText?`
and `toBytes?` read strings and decimals alike, `toInt?` and `toReal?` only numbers of their own
type.
-/

import Loadable.LittleEndian
import Loadable.Decimal.Layout
import Loadable.Tag
import Loadable.Text.Quoted

namespace Loadable

/-- A value of one of the four types, `none` for NULL. -/
inductive Value where
  | string (v : Option Bytes)
  | real (v : Option Double)
  | int (v : Option Int64)
  | decimal (v : Option String)
  deriving DecidableEq, Repr

namespace Value

/-- The type of a value. -/
def type : Value → SqlType
  | string _ => .string
  | real _ => .real
  | int _ => .int
  | decimal _ => .decimal

/-- The NULL of a type. -/
def null : SqlType → Value
  | .string => string none
  | .real => real none
  | .int => int none
  | .decimal => decimal none

def isNull : Value → Bool
  | string v => v.isNone
  | real v => v.isNone
  | int v => v.isNone
  | decimal v => v.isNone

/-- The number, of an integer that is not NULL. -/
def toInt? : Value → Option Int64
  | int v => v
  | _ => none

/-- The number, of a real that is not NULL. -/
def toReal? : Value → Option Double
  | real v => v
  | _ => none

/-- The text, of a string in UTF-8 or of a decimal. -/
def toText? : Value → Option String
  | string (some bs) => Utf8.decode? bs
  | decimal (some s) => some s
  | _ => none

/-- The bytes, of a string or of a decimal. -/
def toBytes? : Value → Option Bytes
  | string (some bs) => some bs
  | decimal (some s) => some (Utf8.encode s)
  | _ => none

/-- Equality as the types define it: a real that is no number differs from itself. -/
def eqv : Value → Value → Bool
  | real (some a), real (some b) => a.eqv b
  | a, b => a = b

theorem type_null (t : SqlType) : (null t).type = t := by cases t <;> rfl

theorem isNull_null (t : SqlType) : (null t).isNull = true := by cases t <;> rfl

/-- Members of a list as messages show them. -/
def listText (items : List String) : String := "[" ++ String.intercalate ", " items ++ "]"

/-- A value that may be absent, as messages show it. -/
def optionText (item : Option String) : String :=
  match item with
  | some s => "Some(" ++ s ++ ")"
  | none => "None"

/-- Bytes as messages show them. -/
def bytesText (bs : Bytes) : String := listText (bs.map fun b => toString b.toNat)

/-- An integer as messages show it. -/
def intText (i : Int64) : String := String.ofList (Decimal.intText i.toInt)

/-- The value as messages show it. -/
def text : Value → String
  | string v => "String(" ++ optionText (v.map bytesText) ++ ")"
  | real v => "Real(" ++ optionText (v.map Decimal.pointed.write) ++ ")"
  | int v => "Int(" ++ optionText (v.map intText) ++ ")"
  | decimal v => "Decimal(" ++ optionText (v.map Text.quoted) ++ ")"

end Value
end Loadable
