/-
# Literals

Strings, characters and numbers as source text spells them.  A string may have escapes, stand raw
between hash marks, or be one of bytes or one that ends in a zero byte; numbers may have a base,
places, an exponent.  A word right behind a literal belongs to it.
-/

import Loadable.Source.Token

namespace Loadable
namespace Source

/-- What a string is made of. -/
inductive StringKind where
  | text
  | bytes
  /-- Text that a zero byte ends. -/
  | zeroEnded
  deriving DecidableEq, Repr

/-- The letters in front of a string of a kind. -/
def StringKind.opening : StringKind → List Char
  | text => []
  | bytes => ['b']
  | zeroEnded => ['c']

/-- Whether a string may hold a character as it is. -/
def StringKind.allows (k : StringKind) (c : Char) : Bool :=
  match k with
  | text => true
  | bytes => c.toNat < 0x80
  | zeroEnded => c ≠ '\x00'

/-- The value of a hexadecimal digit. -/
def hexValue? (c : Char) : Option Nat :=
  if '0' ≤ c ∧ c ≤ '9' then some (c.toNat - '0'.toNat)
  else if 'a' ≤ c ∧ c ≤ 'f' then some (c.toNat - 'a'.toNat + 10)
  else if 'A' ≤ c ∧ c ≤ 'F' then some (c.toNat - 'A'.toNat + 10)
  else none

/-- Whether a number is that of a character. -/
def isScalar (n : Nat) : Bool := n < 0xD800 || 0xE000 ≤ n && n < 0x110000

/-- One to six hexadecimal digits up to a closing brace, `value` and `count` being those of the
digits before; underscores may follow the first digit. -/
def scalarDigits (value count : Nat) : List Char → Option (Char × List Char)
  | [] => none
  | c :: cs =>
    match hexValue? c with
    | some d => if count < 6 then scalarDigits (value * 16 + d) (count + 1) cs else none
    | none =>
      if count = 0 then none
      else if c = '_' then scalarDigits value count cs
      else if c = '\x7d' ∧ isScalar value then some (Char.ofNat value, cs)
      else none

/-- The value of an escape of two hexadecimal digits in a string of a kind. -/
def pairEscape? (k : StringKind) (a b : Char) : Option Char :=
  match hexValue? a, hexValue? b with
  | some x, some y =>
    match k with
    | .text => if x < 8 then some (Char.ofNat (x * 16 + y)) else none
    | .bytes => some (Char.ofNat (x * 16 + y))
    | .zeroEnded => if x * 16 + y = 0 then none else some (Char.ofNat (x * 16 + y))
  | _, _ => none

/-- The character of an escape of one letter. -/
def letterEscape? : Char → Option Char
  | 'n' => some '\n'
  | 'r' => some '\r'
  | 't' => some '\t'
  | '\\' => some '\\'
  | '\'' => some '\''
  | '"' => some '"'
  | _ => none

/-- What follows a backslash, and the rest. -/
def escape? (k : StringKind) : List Char → Option (Char × List Char)
  | 'x' :: a :: b :: rest => (pairEscape? k a b).map (·, rest)
  | 'u' :: '\x7b' :: rest =>
    if k = .bytes then none
    else (scalarDigits 0 0 rest).filter fun (c, _) => k ≠ .zeroEnded || c ≠ '\x00'
  | '0' :: rest => if k = .zeroEnded then none else some ('\x00', rest)
  | c :: rest => (letterEscape? c).map (·, rest)
  | [] => none

theorem length_of_scalarDigits {value count : Nat} {cs rest : List Char} {c : Char}
    (h : scalarDigits value count cs = some (c, rest)) : rest.length < cs.length := by
  fun_induction scalarDigits value count cs <;> grind

theorem length_of_escape? {k : StringKind} {cs rest : List Char} {c : Char}
    (h : escape? k cs = some (c, rest)) : rest.length < cs.length := by
  unfold escape? at h
  split at h
  · obtain ⟨_, -, h⟩ := Option.map_eq_some_iff.1 h
    obtain ⟨-, rfl⟩ := Prod.mk.inj h
    simp only [List.length_cons]
    omega
  · split at h
    · simp at h
    · obtain ⟨h, -⟩ := Option.filter_eq_some_iff.1 h
      have := length_of_scalarDigits h
      simp only [List.length_cons]
      omega
  · split at h
    · simp at h
    · obtain ⟨-, rfl⟩ := Prod.mk.inj (Option.some.inj h)
      exact Nat.lt_succ_self _
  · obtain ⟨_, -, h⟩ := Option.map_eq_some_iff.1 h
    obtain ⟨-, rfl⟩ := Prod.mk.inj h
    exact Nat.lt_succ_self _
  · simp at h

/-- Whether a character is a blank that does not count at the start of the line behind a broken one. -/
def isIndent (c : Char) : Bool := c == ' ' || c == '\t' || c == '\n'

/-- A string up to its closing quote: the characters it denotes, and the rest.  A line may be
broken behind a backslash; then the blanks at the start of the next line do not count, and
`skipping` holds while these are read. -/
def cooked (k : StringKind) (skipping : Bool) : List Char → Option (List Char × List Char)
  | [] => none
  | '"' :: rest => some ([], rest)
  | '\\' :: '\n' :: rest => cooked k true rest
  | '\\' :: '\r' :: '\n' :: rest => cooked k true rest
  | '\\' :: rest =>
    match _h : escape? k rest with
    | none => none
    | some (c, rest') => (cooked k false rest').map fun (cs, r) => (c :: cs, r)
  | '\r' :: '\n' :: rest =>
    if skipping then cooked k true rest
    else (cooked k false rest).map fun (cs, r) => ('\n' :: cs, r)
  | c :: rest =>
    if c = '\r' ∨ !k.allows c then none
    else if skipping && isIndent c then cooked k true rest
    else (cooked k false rest).map fun (cs, r) => (c :: cs, r)
termination_by cs => cs.length
decreasing_by
  all_goals first
    | exact Nat.lt_succ_of_lt (length_of_escape? ‹_›)
    | (simp only [List.length_cons]; omega)

/-- A raw string behind its opening quote, up to a quote with `hashes` hash marks. -/
def rawBody (k : StringKind) (hashes : Nat) : List Char → Option (List Char × List Char)
  | [] => none
  | '"' :: rest =>
    if rest.take hashes = List.replicate hashes '#' then some ([], rest.drop hashes)
    else (rawBody k hashes rest).map fun (cs, r) => ('"' :: cs, r)
  | '\r' :: '\n' :: rest => (rawBody k hashes rest).map fun (cs, r) => ('\r' :: '\n' :: cs, r)
  | c :: rest =>
    if c = '\r' ∨ !k.allows c then none
    else (rawBody k hashes rest).map fun (cs, r) => (c :: cs, r)

/-- A raw string behind its letters. -/
def raw (k : StringKind) (cs : List Char) : Option (List Char × List Char) :=
  let hashes := (cs.takeWhile (· = '#')).length
  match cs.drop hashes with
  | '"' :: rest => if hashes ≤ 255 then rawBody k hashes rest else none
  | _ => none

/-- A string of a kind: the characters it denotes, and the rest. -/
def string? (k : StringKind) (cs : List Char) : Option (List Char × List Char) :=
  if k.opening.isPrefixOf cs then
    match cs.drop k.opening.length with
    | '"' :: rest => cooked k false rest
    | 'r' :: rest => raw k rest
    | _ => none
  else none

/-- One character or escape in single quotes, behind the first one.  Gives the rest. -/
def quotedChar? (k : StringKind) (cs : List Char) : Option (List Char) :=
  let body := match cs with
    | '\\' :: rest => (escape? k rest).map Prod.snd
    | c :: rest => if k.allows c then some rest else none
    | [] => none
  match body with
  | some ('\'' :: rest) => some rest
  | _ => none

/-- A character or a byte in single quotes.  Gives the rest. -/
def char? : List Char → Option (List Char)
  | 'b' :: '\'' :: rest => quotedChar? .bytes rest
  | '\'' :: rest => quotedChar? .text rest
  | _ => none

/-- The text behind a word at its front. -/
def afterWord (cs : List Char) : List Char :=
  match cs with
  | c :: rest => if Text.isIdentifierStart c then rest.dropWhile Text.isIdentifierPart else cs
  | [] => []

/-- The text behind a number and the word on it, if nothing else runs on. -/
def endNumber (cs : List Char) : Option (List Char) :=
  let rest := afterWord cs
  if (rest.head?.map Text.isIdentifierPart).getD false then none else some rest

/-- An exponent behind its letter, with what was seen of it.  Gives the rest; `none` if there is no
digit in it. -/
def exponent (signed valued : Bool) : List Char → Option (List Char)
  | [] => if valued then some [] else none
  | c :: cs =>
    if Text.isAsciiDigit c then exponent signed true cs
    else if c = '_' then exponent signed valued cs
    else if (c = '+' ∨ c = '-') ∧ !valued then if signed then none else exponent true false cs
    else if valued then some (c :: cs)
    else none

/-- A number with a point or an exponent.  Gives the rest. -/
def pointed? (cs : List Char) : Option (List Char) :=
  let isDigit (c : Char) := Text.isAsciiDigit c || c == '_'
  let isExponent (c : Char) := c == 'e' || c == 'E'
  if (cs.head?.map Text.isAsciiDigit).getD false then
    match cs.dropWhile isDigit with
    | '.' :: rest =>
      if (rest.head?.map fun c => c == '.' || Text.isIdentifierStart c).getD false then none
      else
        match rest.dropWhile isDigit with
        | c :: rest' =>
          if isExponent c then (exponent false false rest').orElse fun _ => some (c :: rest')
          else some (c :: rest')
        | [] => some []
    | c :: rest => if isExponent c then exponent false false rest else none
    | [] => none
  else none

/-- The digits of an integer in a base, `empty` before the first one.  Gives the rest. -/
def integerDigits (base : Nat) (empty : Bool) : List Char → Option (List Char)
  | [] => if empty then none else some []
  | c :: cs =>
    match hexValue? c with
    | some d =>
      if d < base then integerDigits base false cs
      else if d < 10 ∨ empty then none
      else some (c :: cs)
    | none =>
      if c = '_' then if empty ∧ base = 10 then none else integerDigits base empty cs
      else if empty then none
      else some (c :: cs)

/-- An integer.  Gives the rest. -/
def integer? : List Char → Option (List Char)
  | '0' :: 'x' :: rest => integerDigits 16 true rest
  | '0' :: 'o' :: rest => integerDigits 8 true rest
  | '0' :: 'b' :: rest => integerDigits 2 true rest
  | cs => integerDigits 10 true cs

/-- The literal that spans the text up to a rest. -/
def Literal.upTo (kind : LiteralKind) (cs rest : List Char) : Literal × List Char :=
  (⟨String.ofList (cs.take (cs.length - rest.length)), kind⟩, rest)

/-- The literal at the front of a text, and the rest. -/
def literal? (cs : List Char) : Option (Literal × List Char) :=
  match string? .text cs, string? .bytes cs, string? .zeroEnded cs, char? cs with
  | some (value, rest), _, _, _ =>
    some (Literal.upTo (.string (String.ofList value)) cs (afterWord rest))
  | none, some (_, rest), _, _ => some (Literal.upTo .other cs (afterWord rest))
  | none, none, some (_, rest), _ => some (Literal.upTo .other cs (afterWord rest))
  | none, none, none, some rest => some (Literal.upTo .other cs (afterWord rest))
  | none, none, none, none =>
    match (pointed? cs).bind endNumber, (integer? cs).bind endNumber with
    | some rest, _ => some (Literal.upTo .number cs rest)
    | none, some rest => some (Literal.upTo .number cs rest)
    | none, none => none

end Source
end Loadable
