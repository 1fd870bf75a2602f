/-
# Given names

A registration is given a name and any number of aliases, as a list of keys with values.
-/

import Loadable.Registration.Refusal
import Loadable.Source.Reading

namespace Loadable
namespace Registration

open Source (Parser Grammar)

/-- A key with its value. -/
structure Entry where
  key : Source.Path
  /-- The text that the value denotes, if it is the literal of one. -/
  value : Option String

/-- The names that a registration is given. -/
structure GivenNames where
  name : Option String
  aliases : List String
  deriving DecidableEq, Repr

namespace GivenNames

/-- The names with those of one more entry. -/
def add (a : GivenNames) (e : Entry) : Except Refusal GivenNames :=
  match e.value with
  | none => .error .notText
  | some v =>
    if e.key.isWord "name" then
      if a.name.isSome then .error .repeatedName else .ok { a with name := some v }
    else if e.key.isWord "alias" then .ok { a with aliases := a.aliases ++ [v] }
    else .error .unknownArgument

/-- The names of a list of entries. -/
def ofEntries (es : List Entry) : Except Refusal GivenNames := es.foldlM add ⟨none, []⟩

end GivenNames

/-- Read an entry. -/
def entry (g : Grammar) : Parser Entry := do
  let key ← Parser.attributePath
  Parser.mark "="
  return { key, value := ← Parser.attributeValue g }

/-- The names given by tokens. -/
def GivenNames.ofTokens (ts : List Source.Token) : Except Failure GivenNames :=
  match Source.read? (fun g => Parser.listed (entry g)) ts with
  | none => .error .malformed
  | some es => (ofEntries es).mapError .refused

/-- The names given by a text. -/
def GivenNames.read (s : String) : Except Failure GivenNames :=
  match Source.tokens? s with
  | none => .error .malformed
  | some ts => ofTokens ts

end Registration
end Loadable
