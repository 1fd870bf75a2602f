/-
# Registered names

A function is registered under a name, its own or one made from its type, and under any number of
aliases.  The part of an aggregate that handles groups is registered apart and must use the same
names, the aliases in the same order.  That is checked before anything runs, by comparing texts byte by
byte and lists text by text, with reads that would be refused past the end.

* `sameList_eq`: a comparison of lists is equality, and none of its reads is past the end;
* `Names.verify_eq`: what the check answers.
-/

import Loadable.Checked
import Loadable.Text.Utf8

namespace Loadable
namespace Registration

/-- The names of a registration. -/
structure Names where
  name : String
  aliases : List String
  /-- Whether the name was made from the type's. -/
  isDefault : Bool
  deriving DecidableEq, Repr

/-- All names, the main one first. -/
def Names.all (n : Names) : List String := n.name :: n.aliases

/-- How two registrations disagree. -/
inductive Mismatch where
  /-- The name; whether the first registration made it from the type's. -/
  | name (isDefault : Bool)
  | aliases
  deriving DecidableEq, Repr

/-- What a disagreement says. -/
def Mismatch.message : Mismatch → String
  | name true =>
    "`#[register]` on `BasicUdf` uses the default name but `#[register]` on `AggregateUdf` sets "
      ++ "`name`, they must match"
  | name false =>
    "`#[register]` on `AggregateUdf` must use the same `name` as `#[register]` on `BasicUdf`"
  | aliases =>
    "`#[register]` on `AggregateUdf` must use the same `alias`es, in the same order, as "
      ++ "`#[register]` on `BasicUdf`"

section Comparison

variable {α : Type} (same : α → α → Except Panic Bool)

/-- Whether two lists have the same from a place on: an index runs over both, up to the end of the
first. -/
def sameFrom (as bs : List α) (i : Nat) : Except Panic Bool :=
  if i < as.length then do
    if ← same (← Checked.read as i) (← Checked.read bs i) then sameFrom as bs (i + 1)
    else return false
  else return true
termination_by as.length - i

/-- Whether two lists have the same length, and the same at every place. -/
def sameList (as bs : List α) : Except Panic Bool :=
  if as.length ≠ bs.length then return false else sameFrom same as bs 0

variable {same} {as bs : List α} [DecidableEq α]

/-- Over lists of one length the index stays below the end of both, and what is compared from a place
on is what stands there. -/
theorem sameFrom_eq (hsame : ∀ a b, same a b = .ok (decide (a = b))) (hlength : as.length = bs.length)
    (i : Nat) : sameFrom same as bs i = .ok (decide (as.drop i = bs.drop i)) := by
  rw [sameFrom]
  by_cases hi : i < as.length
  · have hi' : i < bs.length := hlength ▸ hi
    have hplace : as.drop i = bs.drop i ↔ as[i] = bs[i] ∧ as.drop (i + 1) = bs.drop (i + 1) := by
      rw [List.drop_eq_getElem_cons hi, List.drop_eq_getElem_cons hi', List.cons.injEq]
    -- the rest is shorter, and its lists still have one length
    have hrest := sameFrom_eq hsame hlength (i + 1)
    simp only [if_pos hi, Checked.read_eq hi, Checked.read_eq hi', hsame, hplace, bind, Except.bind]
    by_cases heq : as[i] = bs[i]
    · simp only [heq, decide_true, if_true, true_and, hrest]
    · simp only [heq, decide_false, Bool.false_eq_true, if_false, false_and]
      rfl
  · have hi' : ¬ i < bs.length := hlength ▸ hi
    rw [if_neg hi, List.drop_eq_nil_of_le (by omega), List.drop_eq_nil_of_le (by omega)]
    rfl
termination_by as.length - i

/-- **The comparison of lists is equality,** if that of elements is; no read is past the end. -/
theorem sameList_eq (hsame : ∀ a b, same a b = .ok (decide (a = b))) :
    sameList same as bs = .ok (decide (as = bs)) := by
  unfold sameList
  split
  case isTrue h =>
    have hne : as ≠ bs := fun heq => h (congrArg List.length heq)
    rw [decide_eq_false hne]
    rfl
  case isFalse h => exact sameFrom_eq hsame (Decidable.not_not.1 h) 0

end Comparison

/-- Whether two texts have the same bytes. -/
def sameText (a b : String) : Except Panic Bool :=
  sameList (fun x y => return x == y) (Utf8.encode a) (Utf8.encode b)

/-- Texts are the same exactly if they are equal. -/
theorem sameText_eq (a b : String) : sameText a b = .ok (decide (a = b)) := by
  rw [sameText, sameList_eq fun x y => ?_]
  · simp only [Utf8.encode_inj]
  · rfl

/-- Whether two lists have the same texts, place by place. -/
def sameTexts : List String → List String → Except Panic Bool := sameList sameText

/-- Lists of texts are the same exactly if they are equal. -/
theorem sameTexts_eq (as bs : List String) : sameTexts as bs = .ok (decide (as = bs)) :=
  sameList_eq sameText_eq

/-- Check a second registration, by its name and aliases, against the first. -/
def Names.verify (n : Names) (name : String) (aliases : List String) : Outcome Mismatch Unit :=
  match sameText n.name name with
  | .error p => .panic p
  | .ok false => .err (.name n.isDefault)
  | .ok true =>
    match sameTexts n.aliases aliases with
    | .error p => .panic p
    | .ok false => .err .aliases
    | .ok true => .ok ()

/-- What the check answers: the names first, then the aliases. -/
theorem Names.verify_eq (n : Names) (name : String) (aliases : List String) :
    n.verify name aliases =
      if n.name ≠ name then .err (.name n.isDefault)
      else if n.aliases ≠ aliases then .err .aliases
      else .ok () := by
  rw [verify, sameText_eq, sameTexts_eq]
  by_cases hname : n.name = name <;> by_cases haliases : n.aliases = aliases <;>
    simp [hname, haliases]

end Registration
end Loadable
