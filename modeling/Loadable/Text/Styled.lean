/-
# Styled text

A text in pieces, some of which stand out by a colour or in bold letters.  How a terminal is told of that
is left open: a text is shown by any rendering of its pieces, and `plain` is the one without styles.
-/

namespace Loadable
namespace Text

inductive Colour where
  | red
  | green
  | white
  deriving DecidableEq, Repr

/-- A piece of a text, in one style. -/
structure Piece where
  text : String
  colour : Option Colour
  bold : Bool
  deriving DecidableEq, Repr

namespace Piece

/-- A piece that does not stand out. -/
def plain (s : String) : Piece := ⟨s, none, false⟩

def coloured (c : Colour) (s : String) : Piece := ⟨s, some c, false⟩

/-- A piece in colour and in bold letters. -/
def strong (c : Colour) (s : String) : Piece := ⟨s, some c, true⟩

end Piece

/-- A text in pieces. -/
abbrev Styled := List Piece

/-- The text without its styles. -/
def Styled.plain (t : Styled) : String := String.join (t.map Piece.text)

end Text
end Loadable
