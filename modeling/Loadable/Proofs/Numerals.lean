/-
# Integers as texts

Digits, with at most one sign before them, denote an integer (`Denotes`).  `Decimal.readInt?` accepts just
these texts, as far as 64 bits hold what they denote (`readInt?_eq_some_iff`), and `Decimal.intText` writes one
for every integer (`denotes_intText`).

`Datum.leadingInt` cuts a text where it can be no numeral any more, and so finds the longest one that the text
starts with, if there is any (`eq_leadingInt`).  Hence the integer that a text starts with
(`toInt_intOfText`, `intOfText_eq_zero`); and an integer is read back from its own text (`intOfText_intText`).
-/

import Loadable.Checked
import Loadable.Datum
import Mathlib.Data.List.TakeWhile

namespace Loadable

theorem Text.isAsciiDigit_eq : isAsciiDigit = Char.isDigit := rfl

namespace Decimal

open Text (isAsciiDigit isBlank)

/-- One digit or more. -/
structure IsDigits (ds : List Char) : Prop where
  ne_nil : ds ≠ []
  all : ∀ c ∈ ds, c.isDigit = true

/-- What a numeral denotes: the number in base ten, and its negative behind a minus. -/
inductive Denotes : List Char → Int → Prop
  | plain {ds : List Char} (h : IsDigits ds) : Denotes ds (Nat.ofDigitChars 10 ds 0)
  | plus {ds : List Char} (h : IsDigits ds) : Denotes ('+' :: ds) (Nat.ofDigitChars 10 ds 0)
  | minus {ds : List Char} (h : IsDigits ds) : Denotes ('-' :: ds) (-Nat.ofDigitChars 10 ds 0)

/-- What a numeral may begin with. -/
abbrev BeginsNumeral (c : Char) : Prop := c.isDigit = true ∨ c = '-' ∨ c = '+'

theorem BeginsNumeral.not_blank {c : Char} (h : BeginsNumeral c) : isBlank c = false := by
  rcases h with h | rfl | rfl
  · obtain ⟨hlow, hhigh⟩ : 48 ≤ c.toNat ∧ c.toNat ≤ 57 := by
      simpa [Char.isDigit, Char.le_def, UInt32.le_iff_toNat_le] using h
    simp only [isBlank, Bool.or_eq_false_iff, Bool.and_eq_false_imp, decide_eq_true_eq,
      decide_eq_false_iff_not, not_le, beq_eq_false_iff_ne, ne_eq]
    omega
  · decide
  · decide

variable {cs w ds : List Char} {n m : Int}

/-! ### Reading and writing -/

theorem digits_iff : IsDigits ds ↔ (ds.isEmpty || !ds.all isAsciiDigit) = false := by
  rw [Bool.or_eq_false_iff, List.isEmpty_eq_false_iff, Bool.not_eq_false', List.all_eq_true]
  exact ⟨fun h => ⟨h.ne_nil, h.all⟩, fun h => ⟨h.1, h.2⟩⟩

/-- Digits do not begin with a sign. -/
theorem IsDigits.splitSign (h : IsDigits ds) : splitSign ds = (false, ds) := by
  cases ds with
  | nil => rfl
  | cons c ds =>
    have hc : c.isDigit = true := h.all c List.mem_cons_self
    have hminus : c ≠ '-' := by
      rintro rfl
      exact absurd hc (by decide)
    have hplus : c ≠ '+' := by
      rintro rfl
      exact absurd hc (by decide)
    simp [Decimal.splitSign, hminus, hplus]

theorem denotes_iff :
    Denotes cs n ↔ IsDigits (splitSign cs).2
      ∧ n = if (splitSign cs).1 then -(digitsValue (splitSign cs).2 : Int)
        else digitsValue (splitSign cs).2 := by
  constructor
  · rintro (h | h | h)
    · rw [h.splitSign]
      exact ⟨h, rfl⟩
    · exact ⟨h, rfl⟩
    · exact ⟨h, rfl⟩
  · rintro ⟨h, rfl⟩
    unfold splitSign at h ⊢
    split at h
    · exact .minus h
    · exact .plus h
    · exact .plain h

/-- A numeral denotes one integer. -/
theorem Denotes.unique (hn : Denotes cs n) (hm : Denotes cs m) : n = m :=
  (denotes_iff.1 hn).2.trans (denotes_iff.1 hm).2.symm

/-- **Just the numerals of 64 bits are read,** each as what it denotes. -/
theorem readInt?_eq_some_iff {i : Int64} : readInt? cs = some i ↔ Denotes cs i.toInt := by
  rw [denotes_iff, readInt?, digits_iff]
  dsimp only
  generalize (if (splitSign cs).1 then -(digitsValue (splitSign cs).2 : Int)
    else digitsValue (splitSign cs).2) = value
  split
  case isTrue hbad => simp [hbad]
  case isFalse hgood =>
    rw [Bool.eq_false_iff.2 hgood, eq_self_iff_true, true_and]
    constructor
    · intro h
      exact Checked.toInt_ofInt? h
    · rintro rfl
      rw [if_pos (Checked.fits_toInt i), Int64.ofInt_toInt]

/-- **Every integer is written as a numeral for it.** -/
theorem denotes_intText (n : Int) : Denotes (intText n) n := by
  have hdigits (k : Nat) : IsDigits (natDigits k) :=
    ⟨Nat.toDigits_ne_nil, fun c => Nat.isDigit_of_mem_toDigits (by decide) (by decide)⟩
  have hvalue (k : Nat) : Nat.ofDigitChars 10 (natDigits k) 0 = k := Nat.ofDigitChars_ten_toDigits
  unfold intText
  split
  case isTrue hneg =>
    have h := Denotes.minus (hdigits n.natAbs)
    rwa [hvalue, show -(n.natAbs : Int) = n by omega] at h
  case isFalse hpos =>
    have h := Denotes.plain (hdigits n.natAbs)
    rwa [hvalue, show (n.natAbs : Int) = n by omega] at h

/-! ### The longest numeral -/

theorem Denotes.exists_cons (h : Denotes w n) :
    ∃ c ds, w = c :: ds ∧ BeginsNumeral c ∧ ∀ d ∈ ds, d.isDigit = true := by
  cases h with
  | plain h =>
    obtain ⟨c, ds, rfl⟩ := List.exists_cons_of_ne_nil h.ne_nil
    obtain ⟨hc, hds⟩ := List.forall_mem_cons.1 h.all
    exact ⟨c, ds, rfl, .inl hc, hds⟩
  | plus h => exact ⟨_, _, rfl, .inr (.inr rfl), h.all⟩
  | minus h => exact ⟨_, _, rfl, .inr (.inl rfl), h.all⟩

/-- More digits make another numeral. -/
theorem Denotes.append (h : Denotes w n) (hds : ∀ c ∈ ds, c.isDigit = true) :
    ∃ m, Denotes (w ++ ds) m := by
  have happend {es : List Char} (hes : IsDigits es) : IsDigits (es ++ ds) :=
    ⟨List.append_ne_nil_of_left_ne_nil hes.ne_nil ds, List.forall_mem_append.2 ⟨hes.all, hds⟩⟩
  cases h with
  | plain h => exact ⟨_, .plain (happend h)⟩
  | plus h => exact ⟨_, .plus (happend h)⟩
  | minus h => exact ⟨_, .minus (happend h)⟩

/-- A numeral begins with a digit or a sign, and so not with a blank. -/
theorem Denotes.trimStart (h : Denotes w n) : Text.trimStart w = w := by
  obtain ⟨c, ds, rfl, hc, -⟩ := h.exists_cons
  exact List.dropWhile_cons_of_neg (Bool.eq_false_iff.1 hc.not_blank)

/-- The longest numeral that a text starts with, and what it denotes. -/
structure Longest (cs w : List Char) (n : Int) : Prop where
  isPrefix : w <+: cs
  denotes : Denotes w n
  longest : ∀ u m, u <+: cs → Denotes u m → u.length ≤ w.length

/-- Of a numeral all is the longest. -/
theorem Denotes.longest_self (h : Denotes cs n) : Longest cs cs n :=
  ⟨List.prefix_rfl, h, fun _ _ hu _ => hu.length_le⟩

/-- A text starts with one longest numeral at most. -/
theorem Longest.unique {u : List Char} (hw : Longest cs w n) (hu : Longest cs u m) : w = u ∧ n = m := by
  have hle : w.length ≤ u.length := hu.longest w n hw.isPrefix hw.denotes
  have hge : u.length ≤ w.length := hw.longest u m hu.isPrefix hu.denotes
  have hprefix : w <+: u := List.prefix_of_prefix_length_le hw.isPrefix hu.isPrefix hle
  obtain rfl : w = u := hprefix.eq_of_length_le hge
  exact ⟨rfl, hw.denotes.unique hu.denotes⟩

end Decimal

namespace Datum

open Decimal

variable {cs w : List Char} {n : Int} {s : String}

theorem isPrefix_leadingInt (cs : List Char) : leadingInt cs <+: cs := by
  cases cs with
  | nil => exact List.prefix_rfl
  | cons c cs =>
    rw [leadingInt]
    split
    · exact (List.prefix_cons_inj c).2 (List.takeWhile_prefix _)
    · exact List.nil_prefix

/-- Behind a numeral only digits are taken. -/
theorem leadingInt_append (h : Denotes w n) (rest : List Char) :
    leadingInt (w ++ rest) = w ++ rest.takeWhile Text.isAsciiDigit := by
  obtain ⟨c, ds, rfl, hc, hds⟩ := h.exists_cons
  rw [List.cons_append, leadingInt, Text.isAsciiDigit_eq, if_pos hc,
    List.takeWhile_append_of_pos hds, List.cons_append]

/-- A text is cut behind every numeral that it starts with. -/
theorem length_le_leadingInt (hw : w <+: cs) (h : Denotes w n) :
    w.length ≤ (leadingInt cs).length := by
  obtain ⟨rest, rfl⟩ := hw
  rw [leadingInt_append h, List.length_append]
  omega

/-- **A text is cut at its longest numeral,** where it is cut at a numeral. -/
theorem longest_of_leadingInt (hcut : leadingInt cs = w) (h : Denotes w n) : Longest cs w n := by
  subst hcut
  exact ⟨isPrefix_leadingInt cs, h, fun _ _ => length_le_leadingInt⟩

/-- So it is whenever the text starts with a numeral: more digits behind it leave one. -/
theorem eq_leadingInt (h : Longest cs w n) : w = leadingInt cs := by
  obtain ⟨m, hm⟩ : ∃ m, Denotes (leadingInt cs) m := by
    obtain ⟨rest, rfl⟩ := h.isPrefix
    rw [leadingInt_append h.denotes]
    exact h.denotes.append fun _ => List.mem_takeWhile_imp
  exact (h.unique (longest_of_leadingInt rfl hm)).1

/-- **A text gives what its longest numeral denotes,** if 64 bits hold it. -/
theorem toInt_intOfText (h : Longest (Text.trimStart s.toList) w n) (hfits : Checked.Fits n) :
    (intOfText s).toInt = n := by
  have htoInt : (Int64.ofInt n).toInt = n :=
    Int64.toInt_ofInt_of_le hfits.1 (Int.lt_add_one_of_le hfits.2)
  have hread : readInt? (leadingInt (Text.trimStart s.toList)) = some (Int64.ofInt n) := by
    rw [readInt?_eq_some_iff, htoInt, ← eq_leadingInt h]
    exact h.denotes
  rw [intOfText, hread, Option.getD_some, htoInt]

/-- **A text gives zero** if it starts with no numeral, or with one that 64 bits do not hold. -/
theorem intOfText_eq_zero
    (h : ∀ w n, Longest (Text.trimStart s.toList) w n → ¬ Checked.Fits n) : intOfText s = 0 := by
  unfold intOfText
  cases hread : readInt? (leadingInt (Text.trimStart s.toList)) with
  | none => rfl
  | some i =>
    have hdenotes : Denotes (leadingInt (Text.trimStart s.toList)) i.toInt :=
      readInt?_eq_some_iff.1 hread
    exact absurd (Checked.fits_toInt i) (h _ _ (longest_of_leadingInt rfl hdenotes))

/-- **An integer is read back from its text.** -/
theorem intOfText_intText (v : Int64) : intOfText (Value.intText v) = v := by
  have hdenotes : Denotes (Value.intText v).toList v.toInt := by
    rw [Value.intText, String.toList_ofList]
    exact denotes_intText v.toInt
  have hlongest := hdenotes.longest_self
  rw [← hdenotes.trimStart] at hlongest
  exact Int64.toInt_inj.1 (toInt_intOfText hlongest (Checked.fits_toInt v))

end Datum
end Loadable
