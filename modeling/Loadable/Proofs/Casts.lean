/-
# Casts

A cast settles a value: it has the type that was asked for, is NULL where it was, and stays as it is under the
same cast again (`casts_settle`).  Bytes are cast as the text that they hold.

An integer survives as a text: what a chain of casts makes of it, none of them to a real, is the integer itself
or its text (`Carries`), and the integer is read back from that (`integers_survive_text`).
-/

import Loadable.Proofs.Numerals
import Loadable.Proofs.Reading

namespace Loadable
namespace Datum

open Decimal

variable {d : Datum} {type : SqlType}

/-- **A value of the type stays as it is.** -/
theorem convert_of_type (h : d.type = type) : d.convert type = d := by
  subst h
  cases d with
  | string v => rfl
  | bytes v => rfl
  | real v => rfl
  | int v => rfl
  | decimal v => rfl

/-- The same cast again changes nothing. -/
theorem convert_convert (d : Datum) (type : SqlType) :
    (d.convert type).convert type = d.convert type :=
  convert_of_type (type_convert d type)

/-- Bytes are cast as the text that they hold. -/
theorem convert_bytes (v : Option Bytes) (h : type ≠ .string) :
    (bytes v).convert type = (string (v.map Utf8.lossy)).convert type := by
  cases type with
  | string => exact absurd rfl h
  | real => rfl
  | int => rfl
  | decimal => rfl

/-- **A cast settles a value.**  It has the type that was asked for, is NULL where it was, and is not changed
by the same cast again; and a value of that type is not changed at all.  Strings and decimals keep their text
in one another's type.  Bytes in UTF-8 are cast to another type as the text is. -/
theorem casts_settle :
    (∀ (d : Datum) (type : SqlType),
        (d.convert type).type = type
          ∧ (d.convert type).isNull = d.isNull
          ∧ (d.convert type).convert type = d.convert type
          ∧ (d.type = type → d.convert type = d))
      ∧ (∀ v : Option String,
        (string v).convert .decimal = decimal v ∧ (decimal v).convert .string = string v)
      ∧ ∀ (s : String) (type : SqlType), type ≠ .string →
        (bytes (some (Utf8.encode s))).convert type = (string (some s)).convert type := by
  refine ⟨fun d type => ?_, fun v => ⟨rfl, rfl⟩, fun s type htype => ?_⟩
  · exact ⟨type_convert d type, isNull_convert d type, convert_convert d type, convert_of_type⟩
  · rw [convert_bytes _ htype, Option.map_some, Utf8.lossy_encode]

/-! ### Integers -/

/-- An integer, or its text. -/
inductive Carries (v : Int64) : Datum → Prop
  | int : Carries v (int (some v))
  | string : Carries v (string (some (Value.intText v)))
  | decimal : Carries v (decimal (some (Value.intText v)))

namespace Carries

variable {v : Int64}

theorem convert_int (h : Carries v d) : d.convert .int = .int (some v) := by
  have hread : Datum.int (some (intOfText (Value.intText v))) = .int (some v) := by
    rw [intOfText_intText]
  cases h with
  | int => rfl
  | string => exact hread
  | decimal => exact hread

/-- A cast to anything but a real keeps the integer. -/
theorem convert (h : Carries v d) (htype : type ≠ .real) : Carries v (d.convert type) := by
  cases type with
  | real => exact absurd rfl htype
  | int =>
    rw [h.convert_int]
    exact .int
  | string =>
    cases h with
    | int => exact .string
    | string => exact .string
    | decimal => exact .string
  | decimal =>
    cases h with
    | int => exact .decimal
    | string => exact .decimal
    | decimal => exact .decimal

/-- So does a chain of them. -/
theorem foldl_convert (h : Carries v d) {casts : List SqlType} (hcasts : ∀ type ∈ casts, type ≠ .real) :
    Carries v (casts.foldl Datum.convert d) := by
  induction casts generalizing d with
  | nil => exact h
  | cons type casts ih =>
    obtain ⟨htype, hcasts⟩ := List.forall_mem_cons.1 hcasts
    exact ih (h.convert htype) hcasts

end Carries

/-- **Integers survive texts.**  A text cast to an integer, from a string or from a decimal, gives what the
longest numeral denotes that it starts with behind blanks, if 64 bits hold that, and zero in every other case.
And every integer is itself again at the end of a chain of casts that leads over strings and decimals. -/
theorem integers_survive_text (s : String) (v : Int64) {casts : List SqlType}
    (hcasts : ∀ type ∈ casts, type ≠ .real) :
    (∀ d ∈ [string (some s), decimal (some s)],
        (∀ w n, Longest (Text.trimStart s.toList) w n → Checked.Fits n →
            ∃ i : Int64, i.toInt = n ∧ d.convert .int = int (some i))
          ∧ ((∀ w n, Longest (Text.trimStart s.toList) w n → ¬ Checked.Fits n) →
            d.convert .int = int (some 0)))
      ∧ (casts.foldl convert (int (some v))).convert .int = int (some v) := by
  refine ⟨fun d hd => ?_, (Carries.int.foldl_convert hcasts).convert_int⟩
  have hconvert : d.convert .int = int (some (intOfText s)) := by
    obtain rfl | rfl : d = string (some s) ∨ d = decimal (some s) := by simpa using hd
    · rfl
    · rfl
  rw [hconvert]
  refine ⟨fun w n hlongest hfits => ?_, fun hnone => ?_⟩
  · exact ⟨_, toInt_intOfText hlongest hfits, rfl⟩
  · rw [intOfText_eq_zero hnone]

/-- The least integer, between a wide blank and a character of three bytes; the text of its negative, which is
too great; and the least integer over three texts. -/
theorem integers_survive_text_least :
    (string (some "\u3000-9223372036854775808€9")).convert .int = int (some Int64.minValue)
      ∧ (decimal (some "+9223372036854775808")).convert .int = int (some 0)
      ∧ ([.string, .decimal, .string].foldl convert (int (some Int64.minValue))).convert .int
        = int (some Int64.minValue) := by
  have hcasts : ∀ type ∈ [SqlType.string, .decimal, .string], type ≠ .real := by decide
  have hdigits : IsDigits "9223372036854775808".toList := digits_iff.2 (by decide)
  obtain ⟨hleast, hchain⟩ :=
    integers_survive_text "\u3000-9223372036854775808€9" Int64.minValue hcasts
  obtain ⟨hgreat, -⟩ := integers_survive_text "+9223372036854775808" 0 hcasts
  have hvalue : (Nat.ofDigitChars 10 "9223372036854775808".toList 0 : Int) = greatestInt + 1 := by
    decide
  refine ⟨?_, ?_, hchain⟩
  · have hlongest : Longest (Text.trimStart "\u3000-9223372036854775808€9".toList)
        ('-' :: "9223372036854775808".toList) (-(greatestInt + 1)) :=
      longest_of_leadingInt (by decide) (hvalue ▸ .minus hdigits)
    obtain ⟨i, hi, hconvert⟩ := (hleast _ List.mem_cons_self).1 _ _ hlongest (by decide)
    rw [hconvert, Int64.toInt_inj.1 (hi.trans Int64.toInt_minValue.symm)]
  · have hlongest : Longest (Text.trimStart "+9223372036854775808".toList)
        ('+' :: "9223372036854775808".toList) (greatestInt + 1) :=
      longest_of_leadingInt (by decide) (hvalue ▸ .plus hdigits)
    refine (hgreat _ (List.mem_cons_of_mem _ List.mem_cons_self)).2 fun w n hother => ?_
    obtain ⟨-, rfl⟩ := hother.unique hlongest
    decide

end Datum
end Loadable
