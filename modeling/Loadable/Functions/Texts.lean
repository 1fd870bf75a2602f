/-
# Functions on texts

They read their arguments as texts; what is not UTF-8 counts as missing.
-/

import Loadable.Routine

namespace Loadable
namespace Functions

/-- The text that was made last, which the server may still read. -/
structure Made where
  text : String
  deriving DecidableEq, Repr

/-- A greeting for the one argument, or for a stranger. -/
def greet : Routine Made where
  returns := ⟨.borrowed, false⟩
  init p args :=
    if args.length ≠ 1 then ⟨p, .err "greet takes one argument", []⟩ else ⟨p, .ok ⟨""⟩, []⟩
  process s _ args _ :=
    let name := (Argument.textAt? args 0).getD "stranger"
    let s := { s with text := "Hello, " ++ name ++ "!" }
    ⟨s, .ok (.reference (.text s.text)), []⟩

/-- The greatest length of a string in memory. -/
def greatestLength : Nat := 0x7FFFFFFFFFFFFFFF

/-- A text `n` times over. -/
def repeated (bytes : Bytes) (n : Nat) : Bytes :=
  if bytes.isEmpty then [] else (List.replicate n bytes).flatten

/-- The first argument as often as the second says; NULL if either is missing, and an error for a
negative number.  A result too long for memory ends in a panic. -/
def repeatText : Routine Unit where
  returns := ⟨.owned, true⟩
  init p args :=
    if args.length < 2 then ⟨p, .err "repeat_text takes a string and a count", []⟩
    else ⟨p.ask 1 .int, .ok (), []⟩
  process s _ args _ :=
    match Argument.textAt? args 0, Argument.intAt? args 1 with
    | some text, some n =>
      let bytes := Utf8.encode text
      if n < 0 then ⟨s, .err (), []⟩
      else if greatestLength < bytes.length * n.toInt.toNat then
        ⟨s, .panic (.text "capacity overflow"), []⟩
      else ⟨s, .ok (some (repeated bytes n.toInt.toNat)), []⟩
    | _, _ => ⟨s, .ok none, []⟩

/-- The greatest number of words. -/
def maxWords : Int := 268435455

/-- Why a number of words is refused. -/
def countError? (n : Int64) : Option String :=
  if n.toInt < 0 then some s!"word count must not be negative, got {n.toInt}"
  else if maxWords < n.toInt then some s!"maximum of {maxWords} words, got {n.toInt}"
  else none

/-- Why a constant argument is refused: the number of words, or else the seed. -/
def constantError? (index : Nat) (v : Int64) : Option String :=
  if index = 0 then countError? v
  else if v.toInt < 0 then some s!"seed must not be negative, got {v.toInt}"
  else none

/-- A maker of placeholder texts, always the same for the same numbers. -/
structure Filler where
  /-- The text of a number of words. -/
  text : Nat → String
  /-- The text of a number of words that a seed gives. -/
  seeded : Nat → UInt64 → String
  deriving Inhabited

/-- The text for a number of words, by the seed without its sign if there is a seed. -/
def Filler.textFor (filler : Filler) (n : Int64) : Option Int64 → String
  | none => filler.text n.toInt.toNat
  | some seed => filler.seeded n.toInt.toNat (.ofNat seed.toInt.natAbs)

/-- Placeholder text of a number of words, by a seed if there is a second argument.  Constants are
checked at once and the number of words again for each row; a row without one, or without the seed if
there is an argument for it, is an error. -/
def lipsum (filler : Filler) : Routine Made where
  returns := ⟨.borrowed, false⟩
  init p args :=
    if args.isEmpty ∨ 2 < args.length then
      ⟨p, .err s!"expected 1 or 2 args; got {args.length}", []⟩
    else
      match args.zipIdx.findSome? fun (a, i) => a.value.toInt?.bind (constantError? i) with
      | some e => ⟨p, .err e, []⟩
      | none => ⟨p.askAll .int, .ok ⟨""⟩, []⟩
  process s _ args _ :=
    match Argument.intAt? args 0 with
    | none => ⟨s, .err (), []⟩
    | some n =>
      if (countError? n).isSome then ⟨s, .err (), []⟩
      else if 1 < args.length ∧ (Argument.intAt? args 1).isNone then ⟨s, .err (), []⟩
      else
        let s := { s with text := filler.textFor n (Argument.intAt? args 1) }
        ⟨s, .ok (.reference (.text s.text)), []⟩

end Functions
end Loadable
