/-
# Type tags

The server writes the type of an argument or a result as a small integer.  Of the six it knows, four
are types a value can have.

* `Tag.ofNumber?_number`: a tag reads back from its number;
* `SqlType.ofTag_toTag`: a type reads back from its tag.
-/

namespace Loadable

/-- The tags the server knows. -/
inductive Tag where
  | invalid
  | string
  | real
  | int
  | row
  | decimal
  deriving DecidableEq, Repr

/-- The four types a value can have. -/
inductive SqlType where
  | string
  | real
  | int
  | decimal
  deriving DecidableEq, Repr

/-- Why a number or a tag is no type. -/
inductive TypeError where
  /-- The server knows the tag, but no argument can have it. -/
  | unsupported (tag : Tag)
  /-- The number is no tag. -/
  | unknown (number : Int)
  deriving DecidableEq, Repr

namespace Tag

/-- The number the server writes. -/
def number : Tag → Int
  | invalid => -1
  | string => 0
  | real => 1
  | int => 2
  | row => 3
  | decimal => 4

/-- The tag with a number. -/
def ofNumber? (n : Int) : Option Tag :=
  if n = -1 then some invalid
  else if n = 0 then some string
  else if n = 1 then some real
  else if n = 2 then some int
  else if n = 3 then some row
  else if n = 4 then some decimal
  else none

/-- The name messages give the tag. -/
def label : Tag → String
  | invalid => "INVALID_RESULT"
  | string => "STRING_RESULT"
  | real => "REAL_RESULT"
  | int => "INT_RESULT"
  | row => "ROW_RESULT"
  | decimal => "DECIMAL_RESULT"

theorem ofNumber?_number (t : Tag) : ofNumber? t.number = some t := by cases t <;> rfl

/-- The message for a number that is no tag. -/
def unknownMessage (n : Int) : String := s!"invalid Item_result tag {n} received"

end Tag

/-- What a type error says. -/
def TypeError.message : TypeError → String
  | unsupported tag => "`" ++ tag.label ++ "` is not a valid argument type"
  | unknown n => Tag.unknownMessage n

namespace SqlType

/-- The tag of a type. -/
def toTag : SqlType → Tag
  | string => .string
  | real => .real
  | int => .int
  | decimal => .decimal

/-- The type of a tag. -/
def ofTag : Tag → Except TypeError SqlType
  | .string => .ok string
  | .real => .ok real
  | .int => .ok int
  | .decimal => .ok decimal
  | .invalid => .error (.unsupported .invalid)
  | .row => .error (.unsupported .row)

/-- The type whose tag has a number. -/
def ofNumber (n : Int) : Except TypeError SqlType :=
  match Tag.ofNumber? n with
  | some t => ofTag t
  | none => .error (.unknown n)

/-- The name of the type in messages. -/
def displayName : SqlType → String
  | string => "string"
  | real => "real"
  | int => "int"
  | decimal => "decimal"

theorem ofTag_toTag (t : SqlType) : ofTag t.toTag = .ok t := by cases t <;> rfl

theorem ofNumber_number (t : SqlType) : ofNumber t.toTag.number = .ok t := by cases t <;> rfl

end SqlType
end Loadable
