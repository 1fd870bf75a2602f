/-
# The catalog

All functions of the library with the symbols they export.  Names are looked up in it as in a shared
library.  Two of the functions call code outside the library, which the catalog is given.
-/

import Loadable.Functions.Average
import Loadable.Functions.AverageCost
import Loadable.Functions.Bytes
import Loadable.Functions.Constants
import Loadable.Functions.Groups
import Loadable.Functions.Inspection
import Loadable.Functions.Lookup
import Loadable.Functions.Reals
import Loadable.Functions.Scripted
import Loadable.Functions.Sequence
import Loadable.Functions.Sum
import Loadable.Functions.Texts
import Loadable.Functions.Witnesses

namespace Loadable

/-- Code outside the library that functions call.  Its answers depend on what it is asked alone. -/
structure Outside where
  filler : Functions.Filler
  resolver : Functions.Resolver
  deriving Inhabited

/-- A function with its names.  A scripted function has code for every script. -/
structure Registered where
  /-- The name and the aliases. -/
  names : List String
  /-- The name of its type in traces. -/
  typeName : String
  State : Type
  code : Script → Routine State
  /-- Whether it is an aggregate. -/
  aggregate : Bool
  /-- Whether it can take a row out of a group. -/
  removes : Bool

namespace Registered

/-- A function of single rows. -/
def basic {σ : Type} (names : List String) (typeName : String) (r : Routine σ) : Registered :=
  ⟨names, typeName, σ, fun _ => r, false, false⟩

/-- A function of groups. -/
def grouping {σ : Type} (names : List String) (typeName : String) (r : Routine σ)
    (removes : Bool) : Registered :=
  ⟨names, typeName, σ, fun _ => r, true, removes⟩

/-- A function that follows scripts. -/
def ofScripted (f : Scripted) : Registered :=
  ⟨[f.name], f.name, Nat, f.routine, true, f.removes⟩

/-- The endings of the symbols that are exported for a name. -/
def suffixes (f : Registered) : List String :=
  ["", "_init", "_deinit"] ++ (if f.aggregate then ["_clear", "_add"] else [])
    ++ if f.removes then ["_remove"] else []

/-- The exported symbols. -/
def exports (f : Registered) : List String :=
  f.names.flatMap fun name => f.suffixes.map (name ++ ·)

end Registered

namespace Catalog

open Functions Registered

/-- All functions. -/
def functions (outside : Outside) : List Registered :=
  [basic ["sum_int"] "udf_examples::sum_int::SumInt" sumInt,
    basic ["udf_sequence"] "udf_examples::sequence::UdfSequence" udfSequence,
    basic ["lipsum"] "udf_examples::lipsum::Lipsum" (lipsum outside.filler),
    basic ["udf_attribute"] "udf_examples::attribute::UdfAttribute" udfAttribute,
    basic ["mishmash"] "udf_examples::mishmash::Mishmash" mishmash,
    basic ["is_const"] "udf_examples::is_const::IsConst" isConst,
    basic ["empty_call"] "udf_examples::empty::EmptyCall" emptyCall,
    basic ["lookup6"] "udf_examples::lookup::Lookup6" (lookup6 outside.resolver),
    grouping ["avg2"] "udf_examples::avg2::Avg2" avg2 true,
    grouping ["avg_cost"] "udf_examples::avg_cost::AvgCost" avgCost false,
    grouping ["udf_median"] "udf_examples::median::UdfMedian" udfMedian false,
    grouping ["log_calls"] "udf_examples::log_calls::LogCalls" logCalls true,
    basic ["add_all"] "AddAll" addAll, basic ["hypotenuse"] "Hypotenuse" hypotenuse,
    basic ["arg_is_const"] "ArgIsConst" argIsConst, basic ["tracked"] "Tracked" tracked,
    grouping ["group_sum"] "GroupSum" groupSum true,
    grouping ["collect_words", "words"] "CollectWords" collectWords false,
    grouping ["volatile"] "Volatile" volatile false, basic ["greet"] "Greet" greet,
    basic ["repeat_text"] "RepeatText" repeatText,
    basic ["reverse_bytes"] "ReverseBytes" reverseBytes,
    basic ["halve_decimal"] "HalveDecimal" halveDecimal, basic ["fail_with"] "FailWith" failWith,
    basic ["take_bytes"] "TakeBytes" takeBytes,
    grouping ["avg_real", "mean", "average"] "Avg" avgReal true,
    basic ["borrow_str"] "BorrowStr" borrowStr, basic ["borrow_bytes"] "BorrowBytes" borrowBytes,
    basic ["borrow_cow"] "BorrowCow" borrowCow, basic ["own_bytes"] "OwnBytes" ownBytes,
    basic ["the_answer"] "TheAnswer" theAnswer] ++ Scripted.all.map ofScripted

variable (outside : Outside)

/-- The function with a name. -/
def find? (name : String) : Option Registered :=
  (functions outside).find? (·.names.contains name)

/-- Whether a symbol is exported. -/
def contains (symbol : String) : Bool := (functions outside).any (·.exports.contains symbol)

/-- Look a symbol up, among the given ones only if any are given. -/
def lookup (among : Option (List String)) (symbol : String) : Option Unit :=
  if contains outside symbol && (among.all (·.contains symbol)) then some () else none

end Catalog
end Loadable
