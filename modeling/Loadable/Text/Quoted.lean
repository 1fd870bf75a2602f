/-
# Quoted text

A text in double quotes, as values are shown in messages.  The quote and the backslash take a
backslash, five controls have a letter or digit of their own, and a character that is not printable
is shown by its number in hexadecimal digits.

* `quoteChars_append`: characters are quoted one by one.
-/

import Loadable.Text.Printable

namespace Loadable
namespace Text

/-- The digits of a number to a base of at most sixteen, the least significant last. -/
def digits (base n : Nat) : List Char := Nat.toDigits base n

/-- What stands between the quotes for one character. -/
def quoteChar (c : Char) : List Char :=
  if c = '"' then ['\\', '"']
  else if c = '\\' then ['\\', '\\']
  else if c = '\n' then ['\\', 'n']
  else if c = '\t' then ['\\', 't']
  else if c = '\r' then ['\\', 'r']
  else if c = '\x00' then ['\\', '0']
  else if isPrintable c then [c]
  else ['\\', 'u', '\x7b'] ++ digits 16 c.toNat ++ ['\x7d']

/-- What stands between the quotes for a text. -/
def quoteChars (cs : List Char) : List Char := cs.flatMap quoteChar

theorem quoteChars_append (s t : List Char) :
    quoteChars (s ++ t) = quoteChars s ++ quoteChars t := List.flatMap_append

/-- The text in double quotes. -/
def quoted (s : String) : String := "\"" ++ String.ofList (quoteChars s.toList) ++ "\""

end Text
end Loadable
