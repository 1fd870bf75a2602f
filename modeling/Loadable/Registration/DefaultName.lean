/-
# Default names

A function that is given no name takes its type's, in small letters with underscores between the
words.  A word ends before a capital letter behind a small letter or a digit, and before the last of
several capital letters if a small one follows.  Digits stay with the word before them.
-/

import Loadable.Text.LetterCase

namespace Loadable
namespace Registration

/-- Whether the character stands between words and belongs to none. -/
def isSeparator (c : Char) : Bool := c = '_' || c = '-' || c = ' '

/-- Whether a word ends before `d`, which has `c` before it and `rest` behind it. -/
def endsBefore (c d : Char) (rest : List Char) : Bool :=
  Text.isUpper d &&
    (Text.isLower c || c.isDigit || (Text.isUpper c && rest.head?.any Text.isLower))

/-- The rest of a word, whose last character so far is `before`, and the words behind it. -/
def restOfWord (before : Option Char) : List Char → List Char × List (List Char)
  | [] => ([], [])
  | c :: cs =>
    let (word, others) := restOfWord (some c) cs
    if isSeparator c then ([], word :: others)
    else if before.any (endsBefore · c cs) then ([], (c :: word) :: others)
    else (c :: word, others)

/-- The words of a name. -/
def words (s : List Char) : List (List Char) :=
  let (first, others) := restOfWord none s
  (first :: others).filter (!·.isEmpty)

/-- The name of the function whose type has a name. -/
def defaultName (s : String) : String :=
  String.ofList (['_'].intercalate ((words s.toList).map Text.lower))

end Registration
end Loadable
