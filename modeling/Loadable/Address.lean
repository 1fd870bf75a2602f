/-
# Network addresses

An address has eight groups of sixteen bits.  `read?` takes the two literal forms: four decimal
numbers between points, which denote the address `::ffff:a.b.c.d`, and groups of up to four
hexadecimal digits between colons, where `::` stands for at least one group of zero and the last two
groups may be four decimal numbers.  `write` gives the recommended form: small digits, no zeros in
front, `::` for the first longest run of at least two zero groups, and the decimal form for the
addresses that the short literals denote.
-/

import Loadable.Decimal.Layout
import Loadable.Decimal.Reader

namespace Loadable

/-- A network address, by its eight groups. -/
structure Address where
  groups : List UInt16
  length_groups : groups.length = 8
  deriving DecidableEq, Repr

namespace Address

/-- The value of a digit up to sixteen. -/
def digit? (c : Char) : Option Nat :=
  if '0' ≤ c ∧ c ≤ '9' then some (c.toNat - 48)
  else if 'a' ≤ c ∧ c ≤ 'f' then some (c.toNat - 87)
  else if 'A' ≤ c ∧ c ≤ 'F' then some (c.toNat - 55)
  else none

/-- Whether the character is a digit to a base. -/
def isDigit (base : Nat) (c : Char) : Bool :=
  match digit? c with
  | some d => d < base
  | none => false

/-- The number that digits stand for. -/
def digitsValue (base : Nat) (ds : List Char) : Nat :=
  ds.foldl (fun n c => base * n + (digit? c).getD 0) 0

/-- Read all digits at the front, at most `most` and at least one. -/
def number? (base most : Nat) (cs : List Char) : Option (List Char × List Char) :=
  let ds := cs.takeWhile (isDigit base)
  if ds.isEmpty ∨ most < ds.length then none else some (ds, cs.dropWhile (isDigit base))

/-- Read one of the decimal numbers: below 256, with no superfluous zero in front. -/
def octet? (cs : List Char) : Option (Nat × List Char) :=
  match number? 10 3 cs with
  | some (ds, rest) =>
    let n := digitsValue 10 ds
    if 1 < ds.length ∧ ds.head? = some '0' ∨ 255 < n then none else some (n, rest)
  | none => none

/-- Read a decimal number behind a point. -/
def pointOctet? : List Char → Option (Nat × List Char)
  | '.' :: cs => octet? cs
  | _ => none

/-- Read four decimal numbers, as two groups. -/
def quad? (cs : List Char) : Option (UInt16 × UInt16 × List Char) := do
  let (a, cs) ← octet? cs
  let (b, cs) ← pointOctet? cs
  let (c, cs) ← pointOctet? cs
  let (d, cs) ← pointOctet? cs
  return (UInt16.ofNat (256 * a + b), UInt16.ofNat (256 * c + d), cs)

/-- Read one group of hexadecimal digits. -/
def group? (cs : List Char) : Option (UInt16 × List Char) :=
  (number? 16 4 cs).map fun (ds, rest) => (UInt16.ofNat (digitsValue 16 ds), rest)

/-- What groups were read, whether the last two were decimal, and the rest. -/
structure Front where
  groups : List UInt16
  isDecimal : Bool
  rest : List Char

/-- Read up to `most` groups with colons between them. -/
def front : (most : Nat) → (isFirst : Bool) → List Char → Front
  | 0, _, cs => ⟨[], false, cs⟩
  | most + 1, isFirst, cs =>
    let body := if isFirst then some cs else match cs with
      | ':' :: cs => some cs
      | _ => none
    match body with
    | none => ⟨[], false, cs⟩
    | some body =>
      match if most = 0 then none else quad? body with
      | some (g, h, rest) => ⟨[g, h], true, rest⟩
      | none =>
        match group? body with
        | some (g, rest) =>
          let more := front most false rest
          { more with groups := g :: more.groups }
        | none => ⟨[], false, cs⟩

/-- The address of as many groups as one has. -/
def ofGroups? (gs : List UInt16) : Option Address :=
  if h : gs.length = 8 then some ⟨gs, h⟩ else none

theorem ofGroups?_eq_some_iff {gs : List UInt16} {a : Address} :
    ofGroups? gs = some a ↔ a.groups = gs := by
  obtain ⟨hs, hlength⟩ := a
  unfold ofGroups?
  split
  case isTrue => simp [eq_comm]
  case isFalse h =>
    refine iff_of_false nofun ?_
    rintro rfl
    exact h hlength

/-- Read groups between colons, to the end. -/
def readGroups? (cs : List Char) : Option Address :=
  let head := front 8 true cs
  if head.groups.length = 8 then if head.rest.isEmpty then ofGroups? head.groups else none
  else if head.isDecimal then none
  else match head.rest with
    | ':' :: ':' :: cs =>
      let tail := front (7 - head.groups.length) true cs
      if tail.rest.isEmpty then
        ofGroups? (head.groups
          ++ List.replicate (8 - head.groups.length - tail.groups.length) 0 ++ tail.groups)
      else none
    | _ => none

/-- The address that four decimal numbers denote. -/
def mapped (g h : UInt16) : Address := ⟨[0, 0, 0, 0, 0, 0xFFFF, g, h], rfl⟩

/-- Read a literal address. -/
def read? (s : String) : Option Address :=
  match quad? s.toList with
  | some (g, h, []) => some (mapped g h)
  | _ => readGroups? s.toList

/-- A run of zero groups. -/
structure Zeros where
  start : Nat
  length : Nat
  deriving DecidableEq, Repr

/-- The first longest run of zeros among groups from place `i` on, where `current` is the run that
ends before them and `longest` the best so far. -/
def zerosFrom (i : Nat) (current longest : Zeros) : List UInt16 → Zeros
  | [] => longest
  | g :: gs =>
    if g = 0 then
      let run : Zeros := if current.length = 0 then ⟨i, 1⟩ else ⟨current.start, current.length + 1⟩
      zerosFrom (i + 1) run (if longest.length < run.length then run else longest) gs
    else zerosFrom (i + 1) ⟨0, 0⟩ longest gs

/-- The first longest run of zero groups. -/
def zeros (gs : List UInt16) : Zeros := zerosFrom 0 ⟨0, 0⟩ ⟨0, 0⟩ gs

/-- Groups with colons between them. -/
def groupsText (gs : List UInt16) : List Char :=
  List.intercalate [':'] (gs.map fun g => Nat.toDigits 16 g.toNat)

/-- Two groups as four decimal numbers. -/
def quadText (g h : UInt16) : List Char :=
  List.intercalate ['.']
    ([g.toNat / 256, g.toNat % 256, h.toNat / 256, h.toNat % 256].map Decimal.natDigits)

/-- The recommended form. -/
def writeChars (a : Address) : List Char :=
  match a.groups with
  | [0, 0, 0, 0, 0, 0xFFFF, g, h] => "::ffff:".toList ++ quadText g h
  | gs =>
    let run := zeros gs
    if 1 < run.length then
      groupsText (gs.take run.start) ++ [':', ':'] ++ groupsText (gs.drop (run.start + run.length))
    else groupsText gs

/-- The recommended form. -/
def write (a : Address) : String := String.ofList a.writeChars

end Address
end Loadable
