/-
# Reading tokens

`tokens?` reads source text as tokens, or refuses it.  Blanks and comments stand between tokens;
comments that document something become attributes.  Delimiters must be balanced.
-/

import Loadable.Source.Literal
import Loadable.Text.Blank
import Loadable.Text.Quoted

namespace Loadable
namespace Source

/-- Whether a blank may stand between tokens: white space, and the marks for the direction of
writing. -/
def isGap (c : Char) : Bool := Text.isBlank c || c == '\u200e' || c == '\u200f'

/-- A line up to its end, and the text from there on. -/
def line : List Char → List Char × List Char
  | [] => ([], [])
  | '\n' :: cs => ([], '\n' :: cs)
  | '\r' :: '\n' :: cs => ([], '\n' :: cs)
  | c :: cs => ((c :: (line cs).1), (line cs).2)

/-- A comment between marks behind its opening, `depth` more of which are open: what stands in it,
and the rest. -/
def blockBody (depth : Nat) : List Char → Option (List Char × List Char)
  | '/' :: '*' :: cs => (blockBody (depth + 1) cs).map fun (b, r) => ('/' :: '*' :: b, r)
  | '*' :: '/' :: cs =>
    match depth with
    | 0 => some ([], cs)
    | d + 1 => (blockBody d cs).map fun (b, r) => ('*' :: '/' :: b, r)
  | c :: cs => (blockBody depth cs).map fun (b, r) => (c :: b, r)
  | [] => none

/-- What a comment is for. -/
inductive CommentKind where
  | plain
  /-- It documents what follows. -/
  | outer
  /-- It documents what it stands in. -/
  | inner
  deriving DecidableEq, Repr

/-- The kind of a line comment, by what is behind the two slashes, and its text. -/
def lineComment (cs : List Char) : CommentKind × List Char :=
  match cs with
  | '!' :: rest => (.inner, rest)
  | '/' :: '/' :: _ => (.plain, cs)
  | '/' :: rest => (.outer, rest)
  | _ => (.plain, cs)

/-- The kind of a comment between marks, by what is between them, and its text. -/
def blockComment (body : List Char) : CommentKind × List Char :=
  match body with
  | '!' :: rest => (.inner, rest)
  | ['*'] => (.plain, body)
  | '*' :: '*' :: _ => (.plain, body)
  | '*' :: rest => (.outer, rest)
  | _ => (.plain, body)

/-- A comment at the front of a text: its kind, its text and the rest. -/
def comment? : List Char → Option (CommentKind × List Char × List Char)
  | '/' :: '/' :: cs =>
    let (body, rest) := line cs
    let (kind, text) := lineComment body
    some (kind, text, rest)
  | '/' :: '*' :: cs =>
    (blockBody 0 cs).map fun (body, rest) =>
      let (kind, text) := blockComment body
      (kind, text, rest)
  | _ => none

/-- Whether a carriage return in a text does not end a line. -/
def hasLoneReturn : List Char → Bool
  | [] => false
  | '\r' :: '\n' :: cs => hasLoneReturn cs
  | c :: cs => c == '\r' || hasLoneReturn cs

/-- A text as a string literal. -/
def stringLiteral (s : String) : Token := .literal ⟨Text.quoted s, .string s⟩

/-- The attribute that a comment stands for. -/
def commentTokens (kind : CommentKind) (text : List Char) : List Token :=
  match kind with
  | .plain => []
  | _ =>
    .mark '#' false :: (if kind = .inner then [.mark '!' false] else [])
      ++ [.opening .bracket, .word "doc", .mark '=' false, stringLiteral (String.ofList text),
        .closing .bracket]

/-- The punctuation marks. -/
def marks : List Char := "~!@#$%^&*-=+|;:,<.>/?'".toList

/-- Whether a text starts with a mark, which the start of a comment is not. -/
def startsMark : List Char → Bool
  | '/' :: '/' :: _ => false
  | '/' :: '*' :: _ => false
  | c :: _ => marks.contains c
  | [] => false

/-- The words that may not be written raw. -/
def neverRaw : List String := ["_", "super", "self", "Self", "crate"]

/-- A word at the front of a text, and the rest. -/
def plainWord? : List Char → Option (List Char × List Char)
  | c :: cs =>
    if Text.isIdentifierStart c then
      some (c :: cs.takeWhile Text.isIdentifierPart, cs.dropWhile Text.isIdentifierPart)
    else none
  | [] => none

/-- A word, raw or not, and the rest. -/
def word? : List Char → Option (List Char × List Char)
  | 'r' :: '#' :: cs =>
    match plainWord? cs with
    | some (w, rest) =>
      if neverRaw.contains (String.ofList w) then none else some ('r' :: '#' :: w, rest)
    | none => none
  | cs => plainWord? cs

/-- The beginnings of strings and characters, which no word has. -/
def literalOpenings : List (List Char) :=
  ["r\"", "r#\"", "r##", "b\"", "b'", "br\"", "br#", "c\"", "cr\"", "cr#"].map String.toList

/-- A lifetime behind its quote, and the rest. -/
def lifetime? (cs : List Char) : Option (Token × List Char) :=
  match word? cs with
  | some (w, rest) =>
    if rest.head? = some '\'' ∨ (rest.head? = some '#' ∧ ¬ ['r', '#'].isPrefixOf cs) then none
    else some (.lifetime (String.ofList ('\'' :: w)), rest)
  | none => none

/-- The token at the front of a text that has neither gap nor comment there, and the rest. -/
def token? (cs : List Char) : Option (Token × List Char) :=
  match cs with
  | [] => none
  | c :: rest =>
    match Delimiter.ofOpening? c, Delimiter.ofClosing? c, literal? cs with
    | some d, _, _ => some (.opening d, rest)
    | _, some d, _ => some (.closing d, rest)
    | _, _, some (l, rest) => some (.literal l, rest)
    | none, none, none =>
      if startsMark cs then
        if c = '\'' then lifetime? rest else some (.mark c (startsMark rest), rest)
      else if literalOpenings.any (·.isPrefixOf cs) then none
      else (word? cs).map fun (w, rest) => (.word (String.ofList w), rest)

/-- The tokens of a text, of which at most `fuel` characters are read. -/
def scan : Nat → List Char → Option (List Token)
  | 0, cs => if cs.isEmpty then some [] else none
  | fuel + 1, cs =>
    match cs with
    | [] => some []
    | c :: rest =>
      if isGap c then scan fuel rest
      else
        match comment? cs with
        | some (kind, text, rest) =>
          if kind ≠ .plain ∧ hasLoneReturn text then none
          else (scan fuel rest).map (commentTokens kind text ++ ·)
        | none =>
          match token? cs with
          | some (t, rest) => (scan fuel rest).map (t :: ·)
          | none => none

/-- Whether every delimiter is closed by its own kind, given those open before, the last one
first. -/
def balanced (openings : List Delimiter) : List Token → Bool
  | [] => openings.isEmpty
  | .opening d :: ts => balanced (d :: openings) ts
  | .closing d :: ts =>
    match openings with
    | o :: os => o = d && balanced os ts
    | [] => false
  | _ :: ts => balanced openings ts

/-- The text behind a byte order mark at its front. -/
def afterOrderMark (cs : List Char) : List Char :=
  match cs with
  | '\uFEFF' :: rest => rest
  | _ => cs

/-- The tokens of a source text. -/
def tokens? (s : String) : Option (List Token) :=
  let cs := afterOrderMark s.toList
  (scan cs.length cs).filter (balanced [])

end Source
end Loadable
