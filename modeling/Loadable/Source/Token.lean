/-
# Source tokens

The pieces that source text is read as: words, lifetimes, punctuation marks, literals and
delimiters, which stand in the list as openings and closings.  `listText` writes tokens back with no
more blanks than keep two words apart.
-/

import Loadable.Text.IdentifierChar

namespace Loadable
namespace Source

/-- What a literal is, and the text that a string literal denotes. -/
inductive LiteralKind where
  | string (value : String)
  | number
  | other
  deriving DecidableEq, Repr

/-- A literal as it is spelled. -/
structure Literal where
  spelling : String
  kind : LiteralKind
  deriving DecidableEq, Repr

inductive Delimiter where
  | paren
  | bracket
  | brace
  deriving DecidableEq, Repr

namespace Delimiter

def opening : Delimiter → Char
  | paren => '('
  | bracket => '['
  | brace => '\x7b'

def closing : Delimiter → Char
  | paren => ')'
  | bracket => ']'
  | brace => '\x7d'

/-- All delimiters. -/
def all : List Delimiter := [paren, bracket, brace]

/-- The delimiter that a character opens. -/
def ofOpening? (c : Char) : Option Delimiter := all.find? (·.opening = c)

/-- The delimiter that a character closes. -/
def ofClosing? (c : Char) : Option Delimiter := all.find? (·.closing = c)

end Delimiter

inductive Token where
  /-- An identifier or a keyword. -/
  | word (spelling : String)
  /-- A lifetime, with its quote. -/
  | lifetime (spelling : String)
  /-- A mark, and whether another one follows at once. -/
  | mark (c : Char) (joint : Bool)
  | literal (l : Literal)
  | opening (d : Delimiter)
  | closing (d : Delimiter)
  deriving DecidableEq, Repr

namespace Token

/-- The characters of a token. -/
def chars : Token → List Char
  | word s => s.toList
  | lifetime s => s.toList
  | mark c _ => [c]
  | literal l => l.spelling.toList
  | opening d => [d.opening]
  | closing d => [d.closing]

/-- Whether two characters from different tokens would run together. -/
def runTogether (c d : Char) : Bool :=
  Text.isIdentifierPart c && (Text.isIdentifierPart d || d = '\'')

/-- Text followed by a token, with a blank if they would run together. -/
def append (text : List Char) (t : Token) : List Char :=
  match text.getLast?, t.chars.head? with
  | some c, some d => if runTogether c d then text ++ ' ' :: t.chars else text ++ t.chars
  | _, _ => text ++ t.chars

/-- The text of tokens. -/
def listText (ts : List Token) : String := String.ofList (ts.foldl append [])

end Token

/-- A mark of several characters as tokens; the last one stands apart from what follows. -/
def markTokens : List Char → List Token
  | [] => []
  | [c] => [.mark c false]
  | c :: cs => .mark c true :: markTokens cs

/-- The words that no identifier can be. -/
def keywords : List String :=
  ["_", "abstract", "as", "async", "await", "become", "box", "break", "const", "continue", "crate",
    "do", "dyn", "else", "enum", "extern", "false", "final", "fn", "for", "if", "impl", "in", "let",
    "loop", "macro", "match", "mod", "move", "mut", "override", "priv", "pub", "ref", "return",
    "Self", "self", "static", "struct", "super", "trait", "true", "try", "type", "typeof", "unsafe",
    "unsized", "use", "virtual", "where", "while", "yield"]

def isKeyword (s : String) : Bool := keywords.contains s

end Source
end Loadable
