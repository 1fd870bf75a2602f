/-
# Literal addresses

Which texts denote an address, and which one (`Address.Literal`), said without reading them.  Four decimal
numbers below 256 between points do; and so do eight groups between colons, where `::` may stand for the zeros
among them, and four decimal numbers for the last two.  A group is up to four hexadecimal digits, capital or
small, with any zeros in front (`Address.IsGroup`).

Reading takes as many digits as there are, and so finds all of a number (`octet?_eq_some_iff`,
`group?_eq_some_iff`); and it looks for four decimal numbers before it looks for a group, which no group is
mistaken for (`quad?_of_digits`).  Hence a text is read exactly if it is a literal, as the address that it denotes
(`read?_eq_some_iff`).
-/

import Loadable.Address
import Loadable.Text.Range
import Mathlib.Data.List.Induction
import Mathlib.Data.List.TakeWhile

namespace Loadable
namespace Address

open Decimal (natDigits)

variable {base n : ℕ} {c : Char} {ds cs rest : List Char}

/-! ### Digits -/

/-- No digit is beyond ASCII. -/
theorem digit?_eq_none (hc : 128 ≤ c.toNat) : digit? c = none := by
  simp only [digit?, Char.le_def, UInt32.le_iff_toNat_le]
  rw [if_neg, if_neg, if_neg]
  all_goals
    rintro ⟨-, h⟩
    exact absurd (Nat.lt_of_le_of_lt h (by decide)) (Nat.not_lt.2 hc)

/-- A digit in either case is worth its place among the sixteen. -/
theorem digit?_eq_some_iff {d : ℕ} : digit? c = some d ↔ d < 16 ∧ c.toLower = d.digitChar := by
  have hascii : ∀ k < 128, (∀ d ∈ digit? (Char.ofNat k), d < 16)
      ∧ ∀ d < 16, digit? (Char.ofNat k) = some d ↔ (Char.ofNat k).toLower = d.digitChar := by
    decide +kernel
  by_cases hc : c.toNat < 128
  · obtain ⟨hbound, hplace⟩ := Text.of_forall_ofNat (P := fun c => (∀ d ∈ digit? c, d < 16)
      ∧ ∀ d < 16, digit? c = some d ↔ c.toLower = d.digitChar) hascii hc
    exact ⟨fun h => ⟨hbound d h, (hplace d (hbound d h)).1 h⟩, fun ⟨hd, h⟩ => (hplace d hd).2 h⟩
  · have hlower : c.toLower = c := by
      refine dif_neg ?_
      rintro ⟨-, h⟩
      exact hc (Nat.lt_of_le_of_lt (UInt32.le_iff_toNat_le.1 h) (by decide))
    have hplaces : ∀ d < 16, d.digitChar.toNat < 128 := by decide
    rw [digit?_eq_none (Nat.not_lt.1 hc), hlower]
    refine iff_of_false (Option.some_ne_none d).symm ?_
    rintro ⟨hd, rfl⟩
    exact hc (hplaces d hd)

theorem isDigit_eq_true_iff : isDigit base c = true ↔ ∃ d < base, digit? c = some d := by
  unfold isDigit
  cases digit? c <;> simp

/-- Digits of a base, and what they are worth. -/
structure Digits (base : ℕ) (ds : List Char) (n : ℕ) : Prop where
  all : ∀ c ∈ ds, isDigit base c = true
  value : digitsValue base ds = n

theorem digits_nil : Digits base [] 0 := ⟨nofun, rfl⟩

theorem digits_snoc_iff : Digits base (ds ++ [c]) n
    ↔ ∃ m, Digits base ds m ∧ ∃ d < base, digit? c = some d ∧ n = base * m + d := by
  have hvalue : digitsValue base (ds ++ [c]) = base * digitsValue base ds + (digit? c).getD 0 := by
    rw [digitsValue, List.foldl_append]
    rfl
  constructor
  · rintro ⟨hall, rfl⟩
    obtain ⟨hds, hc⟩ := List.forall_mem_append.1 hall
    obtain ⟨d, hd, hdigit⟩ := isDigit_eq_true_iff.1 (hc c (List.mem_singleton_self c))
    exact ⟨_, ⟨hds, rfl⟩, d, hd, hdigit, by rw [hvalue, hdigit, Option.getD_some]⟩
  · rintro ⟨m, ⟨hds, rfl⟩, d, hd, hdigit, rfl⟩
    refine ⟨List.forall_mem_append.2 ⟨hds, fun x hx => ?_⟩, by rw [hvalue, hdigit, Option.getD_some]⟩
    rw [List.mem_singleton.1 hx]
    exact isDigit_eq_true_iff.2 ⟨d, hd, hdigit⟩

/-- A number in a base as it may be spelled: in capital or small letters, behind any zeros. -/
def Numeral (base : ℕ) (ds : List Char) (n : ℕ) : Prop :=
  ∃ zeros, ds.map Char.toLower = List.replicate zeros '0' ++ Nat.toDigits base n

theorem Numeral.ne_nil (h : Numeral base ds n) : ds ≠ [] := by
  obtain ⟨zeros, h⟩ := h
  rintro rfl
  exact Nat.toDigits_ne_nil (List.append_eq_nil_iff.1 h.symm).2

theorem digits_of_lower_snoc (hmost : base ≤ 16) {ws : List Char} {d : ℕ}
    (h : ds.map Char.toLower = ws ++ [d.digitChar]) (hd : d < base)
    (hfirst : ∀ ds : List Char, ds.map Char.toLower = ws → Digits base ds n) :
    Digits base ds (base * n + d) := by
  obtain ⟨es, fs, rfl, hes, hfs⟩ := List.map_eq_append_iff.1 h
  obtain ⟨c, rfl, hc⟩ := List.map_eq_singleton_iff.1 hfs
  exact digits_snoc_iff.2
    ⟨n, hfirst es hes, d, hd, digit?_eq_some_iff.2 ⟨Nat.lt_of_lt_of_le hd hmost, hc⟩, rfl⟩

/-- Zeros are worth nothing. -/
theorem digits_of_zeros (hbase : 1 < base) (hmost : base ≤ 16) {zeros : ℕ}
    (h : ds.map Char.toLower = List.replicate zeros '0') : Digits base ds 0 := by
  induction zeros generalizing ds with
  | zero =>
    rw [List.map_eq_nil_iff.1 h]
    exact digits_nil
  | succ zeros ih =>
    rw [List.replicate_succ'] at h
    exact digits_of_lower_snoc hmost (d := 0) h (by omega) fun _ => ih

/-- **What spells a number are its digits,** by induction on the number. -/
theorem Numeral.digits (hbase : 1 < base) (hmost : base ≤ 16) (h : Numeral base ds n) : Digits base ds n := by
  obtain ⟨zeros, h⟩ := h
  induction n using Nat.strongRecOn generalizing ds with
  | ind n ih =>
    rw [Nat.toDigits_eq_if hbase] at h
    split at h
    case isTrue hn =>
      have hzeros := digits_of_lower_snoc hmost h hn fun _ => digits_of_zeros hbase hmost
      rwa [Nat.mul_zero, Nat.zero_add] at hzeros
    case isFalse hn =>
      rw [← List.append_assoc] at h
      have hmore := digits_of_lower_snoc hmost h (Nat.mod_lt _ (by omega)) fun _ =>
        ih (n / base) (Nat.div_lt_self (by omega) hbase)
      rwa [Nat.div_add_mod] at hmore

/-- **Digits spell the number that they are worth.** -/
theorem Digits.numeral (hbase : 1 < base) (h : Digits base ds n) (hne : ds ≠ []) : Numeral base ds n := by
  induction ds using List.reverseRecOn generalizing n with
  | nil => exact absurd rfl hne
  | append_singleton ds c ih =>
    obtain ⟨m, hds, d, hd, hdigit, rfl⟩ := digits_snoc_iff.1 h
    have hc : [c].map Char.toLower = [d.digitChar] := by
      rw [List.map_singleton, (digit?_eq_some_iff.1 hdigit).2]
    rw [Numeral, List.map_append, hc]
    by_cases hempty : ds = []
    · obtain rfl : m = 0 := by rw [← hds.value, hempty]; rfl
      exact ⟨0, by rw [hempty, Nat.mul_zero, Nat.zero_add, Nat.toDigits_of_lt_base hd]; rfl⟩
    · obtain ⟨zeros, hzeros⟩ := ih hds hempty
      rw [hzeros, List.append_assoc]
      by_cases hm : m = 0
      · -- the digits so far are zeros
        refine ⟨zeros + 1, ?_⟩
        rw [hm, Nat.toDigits_zero, Nat.mul_zero, Nat.zero_add, Nat.toDigits_of_lt_base hd,
          List.replicate_succ', List.append_assoc]
      · refine ⟨zeros, ?_⟩
        rw [← Nat.toDigits_of_lt_base hd, Nat.toDigits_append_toDigits hbase (Nat.pos_of_ne_zero hm) hd]

/-- A number is written in small letters. -/
theorem lower_toDigits (hbase : 1 < base) (hmost : base ≤ 16) (n : ℕ) :
    (Nat.toDigits base n).map Char.toLower = Nat.toDigits base n := by
  have hsmall : ∀ d < 16, d.digitChar.toLower = d.digitChar := by decide
  induction n using Nat.strongRecOn with
  | ind n ih =>
    rw [Nat.toDigits_eq_if hbase]
    split
    case isTrue hn => rw [List.map_singleton, hsmall n (by omega)]
    case isFalse hn =>
      have hd : n % base < 16 := Nat.lt_of_lt_of_le (Nat.mod_lt _ (by omega)) hmost
      rw [List.map_append, ih _ (Nat.div_lt_self (by omega) hbase), List.map_singleton, hsmall _ hd]

/-- A number is spelled as it is written. -/
theorem numeral_toDigits (hbase : 1 < base) (hmost : base ≤ 16) (n : ℕ) :
    Numeral base (Nat.toDigits base n) n := ⟨0, lower_toDigits hbase hmost n⟩

theorem digits_natDigits (n : ℕ) : Digits 10 (natDigits n) n :=
  Numeral.digits (by decide) (by decide) (numeral_toDigits (by decide) (by decide) n)

/-- Decimal digits have no case. -/
theorem toLower_eq_self (h : isDigit 10 c = true) : c.toLower = c := by
  have hascii : ∀ k < 128, isDigit 10 (Char.ofNat k) = true → (Char.ofNat k).toLower = Char.ofNat k := by
    decide +kernel
  have hc : c.toNat < 128 := by
    by_contra hc
    obtain ⟨d, -, hd⟩ := isDigit_eq_true_iff.1 h
    rw [digit?_eq_none (Nat.not_lt.1 hc)] at hd
    cases hd
  exact Text.of_forall_ofNat (P := fun c => isDigit 10 c = true → c.toLower = c) hascii hc h

theorem isDigit_mono {more : ℕ} (h : isDigit base c = true) (hmore : base ≤ more) : isDigit more c = true := by
  obtain ⟨d, hd, hdigit⟩ := isDigit_eq_true_iff.1 h
  exact isDigit_eq_true_iff.2 ⟨d, Nat.lt_of_lt_of_le hd hmore, hdigit⟩

/-! ### Numbers at the front of a text -/

/-- A text that no digit of a base begins. -/
def NoDigit (base : ℕ) (rest : List Char) : Prop := ∀ c ∈ rest.head?, isDigit base c = false

theorem noDigit_nil : NoDigit base [] := nofun

theorem noDigit_cons (hc : isDigit base c = false) (rest : List Char) : NoDigit base (c :: rest) :=
  fun _ hd => Option.some.inj hd ▸ hc

theorem span_digits (hall : ∀ c ∈ ds, isDigit base c = true) (hrest : NoDigit base rest) :
    (ds ++ rest).takeWhile (isDigit base) = ds ∧ (ds ++ rest).dropWhile (isDigit base) = rest := by
  have hstop : rest.takeWhile (isDigit base) = [] ∧ rest.dropWhile (isDigit base) = rest := by
    cases rest with
    | nil => exact ⟨rfl, rfl⟩
    | cons c rest =>
      have hc := hrest c rfl
      exact ⟨List.takeWhile_cons_of_neg (by simp [hc]), List.dropWhile_cons_of_neg (by simp [hc])⟩
  rw [List.takeWhile_append_of_pos hall, List.dropWhile_append_of_pos hall, hstop.1, hstop.2, List.append_nil]
  exact ⟨rfl, rfl⟩

/-- Reading takes all digits that there are. -/
theorem number?_eq_some_iff {most : ℕ} : number? base most cs = some (ds, rest)
    ↔ cs = ds ++ rest ∧ ds ≠ [] ∧ ds.length ≤ most ∧ (∀ c ∈ ds, isDigit base c = true)
      ∧ NoDigit base rest := by
  constructor
  · intro h
    obtain ⟨hlength, h⟩ := Option.ite_none_left_eq_some.1 h
    obtain ⟨rfl, rfl⟩ := Prod.mk.inj (Option.some.inj h)
    simp only [List.isEmpty_iff, not_or, Nat.not_lt] at hlength
    refine ⟨List.takeWhile_append_dropWhile.symm, hlength.1, hlength.2, fun c => List.mem_takeWhile_imp, ?_⟩
    intro c hc
    have hstop := List.head?_dropWhile_not (isDigit base) cs
    rw [Option.mem_def.1 hc] at hstop
    exact hstop
  · rintro ⟨rfl, hne, hlength, hall, hrest⟩
    obtain ⟨htake, hdrop⟩ := span_digits hall hrest
    rw [number?, htake, hdrop]
    refine if_neg ?_
    rw [List.isEmpty_iff, not_or, Nat.not_lt]
    exact ⟨hne, hlength⟩

/-- A number below 256 is read as it is written, and in no other way. -/
theorem octet?_eq_some_iff : octet? cs = some (n, rest)
    ↔ n < 256 ∧ cs = natDigits n ++ rest ∧ NoDigit 10 rest := by
  have hwritten : ∀ n < 256, (natDigits n).length ≤ 3
      ∧ ¬ (1 < (natDigits n).length ∧ (natDigits n).head? = some '0') := by
    decide +kernel
  unfold octet?
  constructor
  · intro h
    split at h
    case h_1 ds rest' hnumber =>
      obtain ⟨rfl, hne, -, hall, hrest⟩ := number?_eq_some_iff.1 hnumber
      obtain ⟨hn, h⟩ := Option.ite_none_left_eq_some.1 h
      obtain ⟨rfl, rfl⟩ := Prod.mk.inj (Option.some.inj h)
      simp only [not_or, Nat.not_lt] at hn
      refine ⟨by omega, ?_, hrest⟩
      have hlower : ds.map Char.toLower = ds := by
        conv_rhs => rw [← List.map_id ds]
        exact List.map_congr_left fun c hc => toLower_eq_self (hall c hc)
      have hnumeral : Numeral 10 ds (digitsValue 10 ds) := Digits.numeral (by decide) ⟨hall, rfl⟩ hne
      obtain ⟨zeros, hzeros⟩ := hnumeral
      rw [hlower] at hzeros
      cases zeros with
      | zero => exact congrArg (· ++ rest') hzeros
      | succ zeros =>
        -- a zero in front of a number is one of at least two digits
        refine absurd ⟨?_, ?_⟩ hn.1
        · rw [hzeros, List.length_append, List.length_replicate]
          have hlength : 0 < (Nat.toDigits 10 (digitsValue 10 ds)).length := Nat.length_toDigits_pos
          omega
        · rw [hzeros, List.replicate_succ]
          rfl
    case h_2 => cases h
  · rintro ⟨hn, rfl, hrest⟩
    obtain ⟨hlength, hzero⟩ := hwritten n hn
    obtain ⟨hall, hvalue⟩ := digits_natDigits n
    have hne : natDigits n ≠ [] := Nat.toDigits_ne_nil
    rw [number?_eq_some_iff.2 ⟨rfl, hne, hlength, hall, hrest⟩]
    dsimp only
    rw [hvalue, if_neg]
    rw [not_or]
    exact ⟨hzero, by omega⟩

theorem pointOctet?_eq_some_iff : pointOctet? cs = some (n, rest)
    ↔ n < 256 ∧ cs = '.' :: (natDigits n ++ rest) ∧ NoDigit 10 rest := by
  unfold pointOctet?
  split
  case h_1 cs => rw [octet?_eq_some_iff, List.cons_inj_right]
  case h_2 hpoint =>
    refine iff_of_false nofun ?_
    rintro ⟨-, rfl, -⟩
    exact hpoint _ rfl

/-- Four decimal numbers with points between them. -/
def dotted (a b c d : ℕ) : List Char :=
  natDigits a ++ '.' :: (natDigits b ++ '.' :: (natDigits c ++ '.' :: natDigits d))

/-- **Four decimal numbers** below 256 are read as two groups. -/
theorem quad?_eq_some_iff {g h : UInt16} : quad? cs = some (g, h, rest)
    ↔ ∃ a < 256, ∃ b < 256, ∃ c < 256, ∃ d < 256, g = .ofNat (256 * a + b) ∧ h = .ofNat (256 * c + d)
      ∧ cs = dotted a b c d ++ rest ∧ NoDigit 10 rest := by
  have hpoint (cs : List Char) : NoDigit 10 ('.' :: cs) := noDigit_cons (by decide) cs
  constructor
  · intro hquad
    obtain ⟨⟨a, cs₁⟩, ha, hb⟩ := Option.bind_eq_some_iff.1 hquad
    obtain ⟨⟨b, cs₂⟩, hb, hc⟩ := Option.bind_eq_some_iff.1 hb
    obtain ⟨⟨c, cs₃⟩, hc, hd⟩ := Option.bind_eq_some_iff.1 hc
    obtain ⟨⟨d, cs₄⟩, hd, hgroups⟩ := Option.bind_eq_some_iff.1 hd
    obtain ⟨hasmall, rfl, -⟩ := octet?_eq_some_iff.1 ha
    obtain ⟨hbsmall, rfl, -⟩ := pointOctet?_eq_some_iff.1 hb
    obtain ⟨hcsmall, rfl, -⟩ := pointOctet?_eq_some_iff.1 hc
    obtain ⟨hdsmall, rfl, hrest⟩ := pointOctet?_eq_some_iff.1 hd
    cases hgroups
    exact ⟨a, hasmall, b, hbsmall, c, hcsmall, d, hdsmall, rfl, rfl, by simp [dotted], hrest⟩
  · rintro ⟨a, ha, b, hb, c, hc, d, hd, rfl, rfl, rfl, hrest⟩
    have ha' := octet?_eq_some_iff.2 ⟨ha, rfl, hpoint (natDigits b ++ '.' :: (natDigits c ++ '.' ::
      (natDigits d ++ rest)))⟩
    have hb' := pointOctet?_eq_some_iff.2 ⟨hb, rfl, hpoint (natDigits c ++ '.' :: (natDigits d ++ rest))⟩
    have hc' := pointOctet?_eq_some_iff.2 ⟨hc, rfl, hpoint (natDigits d ++ rest)⟩
    have hd' := pointOctet?_eq_some_iff.2 ⟨hd, rfl, hrest⟩
    have htext : dotted a b c d ++ rest = natDigits a ++ '.' :: (natDigits b ++ '.' :: (natDigits c ++ '.' ::
        (natDigits d ++ rest))) := by
      simp [dotted]
    simp only [quad?, htext, ha', hb', hc', hd', Option.bind_eq_bind, Option.bind_some]
    rfl

/-- Digits without a point behind them are none of four decimal numbers. -/
theorem quad?_of_digits (hall : ∀ c ∈ ds, isDigit 16 c = true) (hrest : NoDigit 16 rest)
    (hpoint : rest.head? ≠ some '.') : quad? (ds ++ rest) = none := by
  rw [Option.eq_none_iff_forall_ne_some]
  rintro ⟨g, h, rest'⟩ hquad
  obtain ⟨a, -, b, -, c, -, d, -, -, -, hcs, -⟩ := quad?_eq_some_iff.1 hquad
  have hfirst : ∀ x ∈ natDigits a, isDigit 16 x = true :=
    fun x hx => isDigit_mono ((digits_natDigits a).all x hx) (by decide)
  have hdots : NoDigit 16 ('.' :: (natDigits b ++ '.' :: (natDigits c ++ '.' :: natDigits d)) ++ rest') :=
    noDigit_cons (by decide) _
  rw [dotted, List.append_assoc] at hcs
  have hsame := congrArg (List.dropWhile (isDigit 16)) hcs
  rw [(span_digits hall hrest).2, (span_digits hfirst hdots).2] at hsame
  exact hpoint (by rw [hsame]; rfl)

/-- How a group is spelled: as a hexadecimal number, of at most four digits. -/
structure IsGroup (ds : List Char) (g : UInt16) : Prop where
  numeral : Numeral 16 ds g.toNat
  length : ds.length ≤ 4

theorem IsGroup.digits {g : UInt16} (h : IsGroup ds g) : Digits 16 ds g.toNat :=
  h.numeral.digits (by decide) (by decide)

/-- **A group** is read as it is spelled. -/
theorem group?_eq_some_iff {g : UInt16} : group? cs = some (g, rest)
    ↔ ∃ ds, IsGroup ds g ∧ cs = ds ++ rest ∧ NoDigit 16 rest := by
  rw [group?, Option.map_eq_some_iff]
  constructor
  · rintro ⟨⟨ds, rest'⟩, hnumber, h⟩
    obtain ⟨rfl, rfl⟩ := Prod.mk.inj h
    obtain ⟨rfl, hne, hlength, hall, hrest⟩ := number?_eq_some_iff.1 hnumber
    have hnumeral : Numeral 16 ds (digitsValue 16 ds) := Digits.numeral (by decide) ⟨hall, rfl⟩ hne
    have hsmall : digitsValue 16 ds < 16 ^ 4 := by
      obtain ⟨zeros, hzeros⟩ := hnumeral
      have hlengths := congrArg List.length hzeros
      rw [List.length_map, List.length_append] at hlengths
      rw [← Nat.length_toDigits_le_iff (by decide) (by decide)]
      omega
    have hvalue : (UInt16.ofNat (digitsValue 16 ds)).toNat = digitsValue 16 ds :=
      UInt16.toNat_ofNat_of_lt' hsmall
    exact ⟨ds, ⟨by rwa [hvalue], hlength⟩, rfl, hrest⟩
  · rintro ⟨ds, hgroup, rfl, hrest⟩
    refine ⟨(ds, rest), number?_eq_some_iff.2
      ⟨rfl, hgroup.numeral.ne_nil, hgroup.length, hgroup.digits.all, hrest⟩, ?_⟩
    dsimp only
    rw [hgroup.digits.value, UInt16.ofNat_toNat]

/-! ### Groups between colons -/

/-- Groups with colons between them; the last two may be four decimal numbers, as the first parameter says. -/
inductive Groups : Bool → List Char → List UInt16 → Prop
  | last {ds : List Char} {g : UInt16} : IsGroup ds g → Groups false ds [g]
  | decimal {a b c d : ℕ} : a < 256 → b < 256 → c < 256 → d < 256 →
    Groups true (dotted a b c d) [.ofNat (256 * a + b), .ofNat (256 * c + d)]
  | cons {decimal : Bool} {ds cs : List Char} {g : UInt16} {gs : List UInt16} : IsGroup ds g →
    Groups decimal cs gs → Groups decimal (ds ++ ':' :: cs) (g :: gs)

/-- Groups or none. -/
inductive Side : Bool → List Char → List UInt16 → Prop
  | none {decimal : Bool} : Side decimal [] []
  | some {decimal : Bool} {cs : List Char} {gs : List UInt16} : Groups decimal cs gs → Side decimal cs gs

/-- The texts between colons that denote an address: eight groups, or fewer with two colons for the zeros that
are left out. -/
inductive Grouped : List Char → Address → Prop
  | full {decimal : Bool} {cs : List Char} {a : Address} : Groups decimal cs a.groups → Grouped cs a
  | short {decimal : Bool} {cs ds : List Char} {gs hs : List UInt16} {a : Address} : Side false cs gs →
    Side decimal ds hs → gs.length + hs.length < 8 →
    a.groups = gs ++ List.replicate (8 - gs.length - hs.length) 0 ++ hs →
    Grouped (cs ++ ':' :: ':' :: ds) a

/-- **The texts that denote an address:** four decimal numbers, or groups between colons. -/
inductive Literal : List Char → Address → Prop
  | dotted {a b c d : ℕ} : a < 256 → b < 256 → c < 256 → d < 256 →
    Literal (dotted a b c d) (mapped (.ofNat (256 * a + b)) (.ofNat (256 * c + d)))
  | grouped {cs : List Char} {a : Address} : Grouped cs a → Literal cs a

/-- A text that has a colon before it, unless it is the first. -/
def led (isFirst : Bool) (cs : List Char) : List Char := if isFirst then cs else ':' :: cs

/-- A text at which groups end: nothing, or two colons. -/
def Ends (rest : List Char) : Prop := rest = [] ∨ ∃ cs, rest = ':' :: ':' :: cs

variable {most : ℕ} {isFirst decimal : Bool} {gs : List UInt16}

/-- Reading goes on with four decimal numbers, if there is room for two groups, or else with one group. -/
theorem front_led (most : ℕ) (isFirst : Bool) (cs : List Char) :
    front (most + 1) isFirst (led isFirst cs)
      = match if most = 0 then none else quad? cs with
        | some (g, h, rest) => ⟨[g, h], true, rest⟩
        | none =>
          match group? cs with
          | some (g, rest) => { front most false rest with groups := g :: (front most false rest).groups }
          | none => ⟨[], false, led isFirst cs⟩ := by
  cases isFirst <;> rfl

/-- A text that begins with no digit begins with no group. -/
theorem group?_eq_none (h : NoDigit 16 cs) : group? cs = none := by
  rw [Option.eq_none_iff_forall_ne_some]
  rintro ⟨g, rest⟩ hgroup
  obtain ⟨ds, hg, rfl, -⟩ := group?_eq_some_iff.1 hgroup
  obtain ⟨c, ds, rfl⟩ := List.exists_cons_of_ne_nil hg.numeral.ne_nil
  have hc := hg.digits.all c List.mem_cons_self
  rw [h c rfl] at hc
  cases hc

/-- Nor are any groups read there. -/
theorem front_of_noDigit (h : NoDigit 16 cs) (hpoint : cs.head? ≠ some '.') :
    front most isFirst (led isFirst cs) = ⟨[], false, led isFirst cs⟩ := by
  cases most with
  | zero => rfl
  | succ most =>
    have hquad : quad? cs = none := quad?_of_digits (List.forall_mem_nil _) h hpoint
    rw [front_led, hquad, ite_self, group?_eq_none h]

theorem noDigit_colon (cs : List Char) : NoDigit base (':' :: cs) := by
  refine noDigit_cons ?_ cs
  rw [← Bool.not_eq_true, isDigit_eq_true_iff]
  rintro ⟨d, -, hd⟩
  cases (show digit? ':' = none by decide).symm.trans hd

theorem Ends.noDigit (h : Ends rest) : NoDigit base rest := by
  rcases h with rfl | ⟨cs, rfl⟩
  · exact noDigit_nil
  · exact noDigit_colon _

theorem Ends.noPoint (h : Ends rest) : rest.head? ≠ some '.' := by
  rcases h with rfl | ⟨cs, rfl⟩
  · exact nofun
  · simp

theorem front_ends (h : Ends rest) : front most isFirst rest = ⟨[], false, rest⟩ := by
  cases isFirst with
  | true => exact front_of_noDigit h.noDigit h.noPoint
  | false =>
    rcases h with rfl | ⟨cs, rfl⟩
    · cases most <;> rfl
    · exact (front_of_noDigit (noDigit_colon cs) (by simp) : front most false (led false (':' :: cs)) = _)

/-- **Groups are read** up to where they end. -/
theorem Groups.front_eq (h : Groups decimal cs gs) (hmost : gs.length ≤ most) (hrest : Ends rest) :
    front most isFirst (led isFirst (cs ++ rest)) = ⟨gs, decimal, rest⟩ := by
  induction h generalizing most isFirst with
  | @last ds g hg =>
    cases most with
    | zero => cases hmost
    | succ most =>
      rw [front_led, quad?_of_digits hg.digits.all hrest.noDigit hrest.noPoint, ite_self,
        group?_eq_some_iff.2 ⟨ds, hg, rfl, hrest.noDigit⟩]
      dsimp only
      rw [front_ends hrest]
  | @decimal a b c d ha hb hc hd =>
    cases most with
    | zero => cases hmost
    | succ most =>
      have hroom : most ≠ 0 := by
        rintro rfl
        simp at hmost
      rw [front_led, if_neg hroom,
        quad?_eq_some_iff.2 ⟨a, ha, b, hb, c, hc, d, hd, rfl, rfl, rfl, hrest.noDigit⟩]
  | @cons decimal ds cs g gs hg _ ih =>
    cases most with
    | zero => cases hmost
    | succ most =>
      have hcolon : NoDigit 16 (':' :: (cs ++ rest)) := noDigit_colon _
      rw [List.append_assoc, List.cons_append, front_led, quad?_of_digits hg.digits.all hcolon (by simp),
        ite_self, group?_eq_some_iff.2 ⟨ds, hg, rfl, hcolon⟩]
      dsimp only
      rw [show ':' :: (cs ++ rest) = led false (cs ++ rest) from rfl, ih (Nat.le_of_succ_le_succ hmost)]

/-- What is read are groups, or nothing. -/
theorem groups_of_front (most : ℕ) (isFirst : Bool) (cs : List Char) : front most isFirst cs = ⟨[], false, cs⟩
    ∨ ∃ ds, cs = led isFirst (ds ++ (front most isFirst cs).rest)
      ∧ Groups (front most isFirst cs).isDecimal ds (front most isFirst cs).groups
      ∧ (front most isFirst cs).groups.length ≤ most := by
  induction most generalizing isFirst cs with
  | zero => exact .inl rfl
  | succ most ih =>
    by_cases hled : ∃ body, cs = led isFirst body
    · obtain ⟨body, rfl⟩ := hled
      rw [front_led]
      split
      case h_1 g h rest hquad =>
        split at hquad
        case isTrue => cases hquad
        case isFalse hroom =>
          obtain ⟨a, ha, b, hb, c, hc, d, hd, rfl, rfl, rfl, -⟩ := quad?_eq_some_iff.1 hquad
          refine .inr ⟨dotted a b c d, rfl, .decimal ha hb hc hd, ?_⟩
          exact Nat.succ_le_succ (Nat.pos_of_ne_zero hroom)
      case h_2 =>
        split
        case h_1 g rest hgroup =>
          obtain ⟨ds, hg, rfl, -⟩ := group?_eq_some_iff.1 hgroup
          refine .inr ?_
          rcases ih false rest with hnone | ⟨es, hes, hgroups, hlength⟩
          · rw [hnone]
            exact ⟨ds, rfl, .last hg, Nat.succ_le_succ (Nat.zero_le most)⟩
          · refine ⟨ds ++ ':' :: es, ?_, .cons hg hgroups, Nat.succ_le_succ hlength⟩
            rw [List.append_assoc, List.cons_append]
            exact congrArg (fun cs => led isFirst (ds ++ cs)) hes
        case h_2 => exact .inl rfl
    · refine .inl ?_
      cases isFirst with
      | true => exact absurd ⟨cs, rfl⟩ hled
      | false =>
        cases cs with
        | nil => rfl
        | cons c cs =>
          have hc : c ≠ ':' := by
            rintro rfl
            exact hled ⟨cs, rfl⟩
          simp [front, hc]

/-- What is read at the front of a text is a side of it. -/
theorem side_of_front (most : ℕ) (cs : List Char) : ∃ ds, cs = ds ++ (front most true cs).rest
    ∧ Side (front most true cs).isDecimal ds (front most true cs).groups
    ∧ (front most true cs).groups.length ≤ most := by
  rcases groups_of_front most true cs with hnone | ⟨ds, hds, hgroups, hlength⟩
  · rw [hnone]
    exact ⟨[], rfl, .none, Nat.zero_le most⟩
  · exact ⟨ds, hds, .some hgroups, hlength⟩

/-- A side is read up to where it ends. -/
theorem Side.front_eq (h : Side decimal cs gs) (hmost : gs.length ≤ most) (hrest : Ends rest) :
    ∃ isDecimal, front most true (cs ++ rest) = ⟨gs, isDecimal, rest⟩
      ∧ (isDecimal = true → decimal = true) := by
  cases h with
  | none => exact ⟨false, front_ends hrest, nofun⟩
  | some h => exact ⟨decimal, h.front_eq hmost hrest, id⟩

/-- **Groups between colons are read** as the address that they denote. -/
theorem readGroups?_eq_some_iff {a : Address} : readGroups? cs = some a ↔ Grouped cs a := by
  constructor
  · intro h
    obtain ⟨ds, hds, hside, hmost⟩ := side_of_front 8 cs
    rw [readGroups?] at h
    dsimp only at h
    generalize front 8 true cs = head at *
    obtain ⟨gs, decimal, rest⟩ := head
    dsimp only at h hds hside hmost
    split at h
    case isTrue hfull =>
      obtain ⟨hrest, h⟩ := Option.ite_none_right_eq_some.1 h
      rw [List.isEmpty_iff.1 hrest, List.append_nil] at hds
      cases hside with
      | none => cases hfull
      | some hgroups =>
        obtain rfl := ofGroups?_eq_some_iff.1 h
        exact hds ▸ .full hgroups
    case isFalse hfull =>
      obtain ⟨hdecimal, h⟩ := Option.ite_none_left_eq_some.1 h
      rw [Bool.not_eq_true] at hdecimal
      subst hdecimal
      split at h
      case h_1 cs' _ =>
        obtain ⟨hrest, h⟩ := Option.ite_none_right_eq_some.1 h
        obtain ⟨es, hes, htail, hroom⟩ := side_of_front (7 - gs.length) cs'
        rw [List.isEmpty_iff.1 hrest, List.append_nil] at hes
        subst hes
        rw [hds]
        exact .short hside htail (by omega) (ofGroups?_eq_some_iff.1 h)
      case h_2 => cases h
  · intro h
    cases h with
    | full hgroups =>
      have hfront := @Groups.front_eq _ [] 8 true _ _ hgroups (Nat.le_of_eq a.length_groups) (.inl rfl)
      rw [List.append_nil] at hfront
      rw [readGroups?, show cs = led true cs from rfl, hfront]
      dsimp only
      rw [if_pos a.length_groups]
      exact ofGroups?_eq_some_iff.2 rfl
    | @short decimal cs ds gs hs _ hhead htail hlength hgroups =>
      obtain ⟨isDecimal, hfront, hdecimal⟩ := hhead.front_eq (show gs.length ≤ 8 by omega) (.inr ⟨ds, rfl⟩)
      obtain ⟨isDecimal', hrest, -⟩ :=
        htail.front_eq (show hs.length ≤ 7 - gs.length by omega) (.inl rfl : Ends [])
      rw [List.append_nil] at hrest
      rw [readGroups?, hfront]
      dsimp only
      rw [if_neg (by omega), if_neg (fun h => absurd (hdecimal h) (by decide))]
      simp only [hrest]
      exact ofGroups?_eq_some_iff.2 hgroups

/-- There is no colon in four decimal numbers. -/
theorem colon_notMem_dotted (a b c d : ℕ) : ':' ∉ dotted a b c d := by
  have hdigits (n : ℕ) : ':' ∉ natDigits n := fun h =>
    absurd ((digits_natDigits n).all _ h) (by decide)
  simp [dotted, hdigits]

theorem Groups.colon_mem (h : Groups decimal cs gs) (hlength : 2 < gs.length) : ':' ∈ cs := by
  cases h with
  | last => simp at hlength
  | decimal => simp at hlength
  | cons => simp

theorem Grouped.colon_mem {a : Address} (h : Grouped cs a) : ':' ∈ cs := by
  cases h with
  | full hgroups => exact hgroups.colon_mem (by rw [a.length_groups]; decide)
  | short => simp

/-- **Just the literals are read,** each as the address that it denotes. -/
theorem read?_eq_some_iff {s : String} {a : Address} : read? s = some a ↔ Literal s.toList a := by
  unfold read?
  generalize s.toList = cs
  constructor
  · intro h
    split at h
    case h_1 g h' hquad =>
      obtain ⟨a, ha, b, hb, c, hc, d, hd, rfl, rfl, rfl, -⟩ := quad?_eq_some_iff.1 hquad
      cases h
      rw [List.append_nil]
      exact .dotted ha hb hc hd
    case h_2 => exact .grouped (readGroups?_eq_some_iff.1 h)
  · intro h
    cases h with
    | @dotted a b c d ha hb hc hd =>
      rw [quad?_eq_some_iff.2 ⟨a, ha, b, hb, c, hc, d, hd, rfl, rfl, (List.append_nil _).symm, noDigit_nil⟩]
    | grouped h =>
      split
      case h_1 g h' hquad =>
        obtain ⟨a, -, b, -, c, -, d, -, -, -, hcs, -⟩ := quad?_eq_some_iff.1 hquad
        rw [List.append_nil] at hcs
        exact absurd (hcs ▸ h.colon_mem) (colon_notMem_dotted a b c d)
      case h_2 => exact readGroups?_eq_some_iff.2 h

end Address
end Loadable
