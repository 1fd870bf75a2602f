/-
# Sample values

A value given by hand, to stand for what a column or an expression holds.  `place` lays it out in
memory as the server would.  `convert` casts it to a type: numbers become their text, text gives the
number it starts with, bytes count as their text with ill-formed stretches replaced, and NULL stays
NULL.
-/

import Loadable.Argument
import Loadable.Decimal.Reader
import Loadable.Text.Blank

namespace Loadable

/-- A value given by hand, `none` for NULL. -/
inductive Datum where
  | string (v : Option String)
  | bytes (v : Option Bytes)
  | real (v : Option Double)
  | int (v : Option Int64)
  | decimal (v : Option String)
  deriving DecidableEq, Repr

namespace Datum

/-- The type of a value; bytes are a string. -/
def type : Datum → SqlType
  | string _ => .string
  | bytes _ => .string
  | real _ => .real
  | int _ => .int
  | decimal _ => .decimal

def isNull : Datum → Bool
  | string v => v.isNone
  | bytes v => v.isNone
  | real v => v.isNone
  | int v => v.isNone
  | decimal v => v.isNone

/-- The memory of a value. -/
def memory : Datum → Option Bytes
  | string v => v.map Utf8.encode
  | bytes v => v
  | real v => v.map Double.toBytes
  | int v => v.map intBytes
  | decimal v => v.map Utf8.encode

/-- The length that goes with the memory: numbers have none. -/
def length : Datum → Nat
  | real _ => 0
  | int _ => 0
  | d => (d.memory.map List.length).getD 0

/-- The value as messages show it. -/
def text : Datum → String
  | string v => "String(" ++ Value.optionText (v.map Text.quoted) ++ ")"
  | bytes v => "Bytes(" ++ Value.optionText (v.map Value.bytesText) ++ ")"
  | real v => "Real(" ++ Value.optionText (v.map Decimal.pointed.write) ++ ")"
  | int v => "Int(" ++ Value.optionText (v.map Value.intText) ++ ")"
  | decimal v => "Decimal(" ++ Value.optionText (v.map Text.quoted) ++ ")"

/-- Digits at the front, behind at most one sign. -/
def leadingInt : List Char → List Char
  | c :: cs =>
    if Text.isAsciiDigit c ∨ c = '-' ∨ c = '+' then c :: cs.takeWhile Text.isAsciiDigit else []
  | [] => []

/-- The integer that a text starts with, behind blanks; zero if there is none of 64 bits. -/
def intOfText (s : String) : Int64 :=
  (Decimal.readInt? (leadingInt (Text.trimStart s.toList))).getD 0

/-- The real that a text denotes, between blanks; zero if none. -/
def realOfText (s : String) : Double :=
  (Decimal.readReal? (Text.trim s.toList)).getD ⟨0⟩

/-- The text of a real. -/
def textOfReal (d : Double) : String := Decimal.plain.write d

/-- A text cast to a type. -/
def convertText (s : Option String) : SqlType → Datum
  | .int => int (s.map intOfText)
  | .real => real (s.map realOfText)
  | .decimal => decimal s
  | .string => string s

/-- A value cast to a type. -/
def convert (d : Datum) (type : SqlType) : Datum :=
  match d, type with
  | int v, .real => real (v.map fun i => Double.ofInt i.toInt)
  | int v, .string => string (v.map Value.intText)
  | int v, .decimal => decimal (v.map Value.intText)
  | int v, .int => int v
  | real v, .int => int (v.map Double.nearest)
  | real v, .string => string (v.map textOfReal)
  | real v, .decimal => decimal (v.map textOfReal)
  | real v, .real => real v
  | string v, type => convertText v type
  | decimal v, type => convertText v type
  | bytes v, .string => bytes v
  | bytes v, type => convertText (v.map Utf8.lossy) type

end Datum

/-- An argument given by hand. -/
structure Sample where
  value : Datum
  /-- The text it was written as. -/
  writtenAs : String
  maybeNull : Bool
  deriving DecidableEq, Repr

/-- The argument in memory. -/
def Sample.place (s : Sample) : Argument :=
  { tag := s.value.type.toTag.number, memory := s.value.memory, length := s.value.length
    nullable := if s.maybeNull then 1 else 0, name := some (Utf8.encode s.writtenAs)
    nameLength := (Utf8.encode s.writtenAs).length }

end Loadable
