/-
# Values of a group

`udf_median` gives the upper median, `group_sum` a sum that refuses negative members, `collect_words`
the words one after the other.
-/

import Loadable.Checked

namespace Loadable
namespace Functions

/-- The integer of a value; a real counts with its integer part. -/
def wholeNumber? (v : Value) : Option Int64 := v.toInt?.or (v.toReal?.map Double.truncate)

/-- The upper median of the values of a group; NULL if there are none.  Asking for it sorts them. -/
def udfMedian : Routine (List Int64) where
  returns := ⟨.int, true⟩
  init p args :=
    if args.length ≠ 1 then ⟨p, .err s!"udf_median takes 1 argument, got {args.length}", []⟩
    else ⟨p, .ok [], []⟩
  process values _ _ _ :=
    let sorted := values.mergeSort (· ≤ ·)
    ⟨sorted, .ok sorted[sorted.length / 2]?, []⟩
  clear _ _ _ := ⟨[], .ok (), []⟩
  add values _ args _ :=
    match args[0]?.bind fun a => wholeNumber? a.value with
    | some v => ⟨values ++ [v], .ok (), []⟩
    | none => ⟨values, .ok (), []⟩

/-- The error for a negative member. -/
def negativeMember : Code := ⟨3, by decide⟩

/-- The sum of a group, which is an error once a step of the group has failed.  A negative member is
refused. -/
def groupSum : Routine Int64 where
  returns := ⟨.int, false⟩
  init p args :=
    if args.isEmpty then ⟨p, .err "group_sum takes one argument", []⟩
    else ⟨p.ask 0 .int, .ok 0, []⟩
  process total _ _ error := ⟨total, if error.isSome then .err () else .ok total, []⟩
  clear _ _ _ := ⟨0, .ok (), []⟩
  add total _ args _ :=
    match Argument.intAt? args 0 with
    | some v =>
      if v < 0 then ⟨total, .err negativeMember, []⟩
      else match Checked.add? total v with
        | some sum => ⟨sum, .ok (), []⟩
        | none => ⟨total, .panic Checked.addOverflow, []⟩
    | none => ⟨total, .ok (), []⟩
  remove total _ args _ :=
    match Checked.sub? total ((Argument.intAt? args 0).getD 0) with
    | some rest => ⟨rest, .ok (), []⟩
    | none => ⟨total, .panic Checked.subOverflow, []⟩

/-- The words of a group, and the text that was made of words last, which the server may still read. -/
structure Words where
  words : List String
  joined : String
  deriving DecidableEq, Repr

/-- The words of a group with spaces between them; NULL if there are none. -/
def collectWords : Routine Words where
  returns := ⟨.borrowed, true⟩
  init p _ := ⟨p, .ok ⟨[], ""⟩, []⟩
  process s _ _ _ :=
    if s.words.isEmpty then ⟨s, .ok none, []⟩
    else
      let s := { s with joined := String.intercalate " " s.words }
      ⟨s, .ok (some (.reference (.text s.joined))), []⟩
  clear s _ _ := ⟨{ s with words := [] }, .ok (), []⟩
  add s _ args _ :=
    match Argument.textAt? args 0 with
    | some word => ⟨{ s with words := s.words ++ [word] }, .ok (), []⟩
    | none => ⟨s, .ok (), []⟩

end Functions
end Loadable
