/-
# Words are tokens

A word is an identifier, perhaps written raw (`Word`).  It is read up to where it stops (`Stops`), at the end of
the text, where something is skipped or at a mark that may stand behind it, and nothing else is read there:
strings and characters that begin with letters have a quote or another mark behind them (`BeginsLiteral`), and
neither blanks nor marks, delimiters and digits begin an identifier.  So a word is a token
(`Word.token?_append`).
-/

import Loadable.Source.Lexer
import Mathlib.Data.List.Basic
import Mathlib.Data.List.TakeWhile

namespace Loadable

namespace Text

/-- What a plain name may begin with. -/
def isPlainStart (c : Char) : Bool := isAsciiLetter c || c == '_'

/-- What may follow in a plain name. -/
def isPlainPart (c : Char) : Bool := isAsciiLetter c || isAsciiDigit c || c == '_'

/-- The numbers of the characters that may follow. -/
theorem toNat_of_isPlainPart {c : Char} (h : isPlainPart c = true) : 48 ≤ c.toNat ∧ c.toNat < 0x80 := by
  simp only [isPlainPart, isAsciiLetter, isAsciiDigit, Bool.or_eq_true, Bool.and_eq_true,
    decide_eq_true_eq, beq_iff_eq, Char.le_def, UInt32.le_iff_toNat_le] at h
  rcases h with ((h | h) | h) | rfl
  · exact ⟨Nat.le_trans (by decide) h.1, Nat.lt_of_le_of_lt h.2 (by decide)⟩
  · exact ⟨Nat.le_trans (by decide) h.1, Nat.lt_of_le_of_lt h.2 (by decide)⟩
  · exact ⟨h.1, Nat.lt_of_le_of_lt h.2 (by decide)⟩
  · decide

theorem isPlainPart_of_isPlainStart {c : Char} (h : isPlainStart c = true) : isPlainPart c = true := by
  unfold isPlainPart
  rcases Bool.or_eq_true_iff.1 h with h | h <;> simp [h]

theorem isIdentifierPart_of_isPlainPart {c : Char} (h : isPlainPart c = true) :
    isIdentifierPart c = true := by
  rw [isIdentifierPart, if_pos (toNat_of_isPlainPart h).2]
  exact h

theorem isIdentifierStart_of_isPlainStart {c : Char} (h : isPlainStart c = true) :
    isIdentifierStart c = true := by
  rw [isIdentifierStart, if_pos (toNat_of_isPlainPart (isPlainPart_of_isPlainStart h)).2]
  exact h

/-- No character between the ranges of a table is in it. -/
theorem Ranges.contains_eq_false {t : Ranges} {c : Char} {lo hi : Nat} (hlo : lo ≤ c.toNat)
    (hhi : c.toNat ≤ hi) (h : (t.toList.all fun r => hi < r.first || r.last < lo) = true) :
    t.contains c = false := by
  rw [contains, ← Array.any_toList, List.any_eq_false]
  intro r hr hcontains
  have hr := List.all_eq_true.1 h r hr
  simp only [Range.contains, Bool.and_eq_true, decide_eq_true_eq] at hcontains
  simp only [Bool.or_eq_true, decide_eq_true_eq] at hr
  omega

/-- Where the blanks are that are not ASCII. -/
def blankSpans : List (Nat × Nat) :=
  [(0x85, 0x85), (0xA0, 0xA0), (0x1680, 0x1680), (0x2000, 0x200F), (0x2028, 0x202F), (0x205F, 0x205F),
    (0x3000, 0x3000)]

theorem apart_blankSpans : (blankSpans.all fun (lo, hi) =>
    (identifierStarts.toList.all fun r => hi < r.first || r.last < lo)
      && identifierContinuations.toList.all fun r => hi < r.first || r.last < lo) = true := by
  decide +kernel

end Text

namespace Source

/-- A blank is ASCII, or in one of some spans. -/
theorem toNat_of_isGap {c : Char} (h : isGap c = true) :
    c.toNat ≤ 32 ∨ ∃ span ∈ Text.blankSpans, span.1 ≤ c.toNat ∧ c.toNat ≤ span.2 := by
  simp only [isGap, Text.isBlank, Bool.or_eq_true, Bool.and_eq_true, decide_eq_true_eq, beq_iff_eq] at h
  simp only [Text.blankSpans, List.mem_cons, List.not_mem_nil, or_false, exists_eq_or_imp,
    exists_eq_left]
  rcases h with (h | rfl) | rfl
  · omega
  · decide
  · decide

/-- No blank is part of an identifier. -/
theorem isIdentifierPart_of_isGap {c : Char} (h : isGap c = true) : Text.isIdentifierPart c = false := by
  unfold Text.isIdentifierPart
  rcases toNat_of_isGap h with hascii | ⟨⟨lo, hi⟩, hspan, hlo, hhi⟩
  · rw [if_pos (Nat.lt_of_le_of_lt hascii (by decide)), ← Bool.not_eq_true]
    intro hpart
    have hplain := (Text.toNat_of_isPlainPart hpart).1
    omega
  · have hspans := List.all_eq_true.1 Text.apart_blankSpans _ hspan
    obtain ⟨hstarts, hcontinuations⟩ := Bool.and_eq_true_iff.1 hspans
    have hlow : ∀ span ∈ Text.blankSpans, 0x80 ≤ span.1 := by decide
    rw [if_neg (Nat.not_lt.2 (Nat.le_trans (hlow _ hspan) hlo)),
      Text.Ranges.contains_eq_false hlo hhi hstarts, Text.Ranges.contains_eq_false hlo hhi hcontinuations]
    rfl

theorem isIdentifierPart_of_isIdentifierStart {c : Char} (h : Text.isIdentifierStart c = true) :
    Text.isIdentifierPart c = true := by
  unfold Text.isIdentifierStart at h
  unfold Text.isIdentifierPart
  split at h
  · rw [if_pos ‹_›]
    rcases Bool.or_eq_true_iff.1 h with h | h <;> simp [h]
  · rw [if_neg ‹_›, h]
    rfl

/-- No identifier begins with a blank. -/
theorem isGap_of_isIdentifierStart {c : Char} (h : Text.isIdentifierStart c = true) :
    isGap c = false := by
  rw [← Bool.not_eq_true]
  intro hgap
  have hpart := isIdentifierPart_of_isIdentifierStart h
  rw [isIdentifierPart_of_isGap hgap] at hpart
  cases hpart

theorem ne_of_isIdentifierStart {c d : Char} (h : Text.isIdentifierStart c = true)
    (hd : Text.isIdentifierStart d = false) : c ≠ d := by
  rintro rfl
  rw [h] at hd
  cases hd

theorem ne_of_isIdentifierPart {c d : Char} (h : Text.isIdentifierPart c = true)
    (hd : Text.isIdentifierPart d = false) : c ≠ d := by
  rintro rfl
  rw [h] at hd
  cases hd

/-- The characters of a word: those of an identifier, perhaps written raw. -/
inductive Word : List Char → Prop
  | plain {c cs} : Text.isIdentifierStart c = true → (∀ d ∈ cs, Text.isIdentifierPart d = true) →
    Word (c :: cs)
  | raw {c cs} : Text.isIdentifierStart c = true → (∀ d ∈ cs, Text.isIdentifierPart d = true) →
    String.ofList (c :: cs) ∉ neverRaw → Word ('r' :: '#' :: c :: cs)

/-- The marks at which a word stops: that of a comment, and those behind the words and values of a list. -/
def stopMarks : List Char := ['/', ',', '=', ':']

/-- A text that may stand behind a word: it is empty, or begins with a blank or such a mark. -/
def Stops (rest : List Char) : Prop := ∀ c ∈ rest.head?, isGap c = true ∨ c ∈ stopMarks

theorem stops_nil : Stops [] := nofun

theorem isIdentifierPart_of_stops {c : Char} (h : isGap c = true ∨ c ∈ stopMarks) :
    Text.isIdentifierPart c = false := by
  have hmarks : ∀ c ∈ stopMarks, Text.isIdentifierPart c = false := List.forall_iff_forall_mem.1 (by decide)
  rcases h with h | h
  · exact isIdentifierPart_of_isGap h
  · exact hmarks c h

theorem Stops.append {cs e : List Char} (h : Stops cs) (hcs : cs ≠ []) : Stops (cs ++ e) := by
  cases cs with
  | nil => exact absurd rfl hcs
  | cons c cs => exact h

theorem Word.exists_cons {w : List Char} (h : Word w) :
    ∃ c cs, w = c :: cs ∧ Text.isIdentifierStart c = true := by
  cases h with
  | plain hc hcs => exact ⟨_, _, rfl, hc⟩
  | raw hc hcs hraw => exact ⟨_, _, rfl, by decide⟩

/-- A word with more characters of identifiers is a word, unless it becomes one that is never raw. -/
theorem Word.append {w e : List Char} (hw : Word w) (he : ∀ c ∈ e, Text.isIdentifierPart c = true)
    (hraw : ∀ k ∈ neverRaw, e <:+ k.toList → e = []) : Word (w ++ e) := by
  have happend {cs : List Char} (hcs : ∀ d ∈ cs, Text.isIdentifierPart d = true) :
      ∀ d ∈ cs ++ e, Text.isIdentifierPart d = true :=
    fun d hd => (List.mem_append.1 hd).elim (hcs d) (he d)
  cases hw with
  | plain hc hcs => exact .plain hc (happend hcs)
  | @raw c cs hc hcs hnever =>
    refine .raw hc (happend hcs) fun hmem => ?_
    change String.ofList (c :: (cs ++ e)) ∈ neverRaw at hmem
    have hempty : e = [] := hraw _ hmem ⟨c :: cs, String.toList_ofList.symm⟩
    rw [hempty, List.append_nil] at hmem
    exact hnever hmem

variable {c : Char} {cs w rest : List Char}

theorem exists_of_plainWord? (h : plainWord? cs = some (w, rest)) :
    ∃ c ds, w = c :: ds ∧ cs = w ++ rest ∧ Text.isIdentifierStart c = true
      ∧ ∀ d ∈ ds, Text.isIdentifierPart d = true := by
  cases cs with
  | nil => cases h
  | cons c cs =>
    obtain ⟨hc, h⟩ := Option.ite_none_right_eq_some.1 h
    cases h
    refine ⟨c, _, rfl, ?_, hc, fun d hd => List.mem_takeWhile_imp hd⟩
    rw [List.cons_append, List.takeWhile_append_dropWhile]

/-- What is read as a word is one, and stands at the front. -/
theorem word_of_word? (h : word? cs = some (w, rest)) : Word w ∧ cs = w ++ rest := by
  unfold word? at h
  split at h
  case h_1 cs' =>
    split at h
    case h_1 w' rest' hw =>
      obtain ⟨hraw, h⟩ := Option.ite_none_left_eq_some.1 h
      cases h
      obtain ⟨c, ds, rfl, rfl, hc, hds⟩ := exists_of_plainWord? hw
      exact ⟨.raw hc hds (by simpa using hraw), rfl⟩
    case h_2 => cases h
  case h_2 =>
    obtain ⟨c, ds, rfl, rfl, hc, hds⟩ := exists_of_plainWord? h
    exact ⟨.plain hc hds, rfl⟩

theorem plainWord?_append (hc : Text.isIdentifierStart c = true)
    (hcs : ∀ d ∈ cs, Text.isIdentifierPart d = true) (hrest : Stops rest) :
    plainWord? (c :: cs ++ rest) = some (c :: cs, rest) := by
  have htake : rest.takeWhile Text.isIdentifierPart = [] ∧ rest.dropWhile Text.isIdentifierPart = rest := by
    cases rest with
    | nil => exact ⟨rfl, rfl⟩
    | cons d ds =>
      have hd := isIdentifierPart_of_stops (hrest d rfl)
      exact ⟨List.takeWhile_cons_of_neg (by simp [hd]), List.dropWhile_cons_of_neg (by simp [hd])⟩
  rw [List.cons_append, plainWord?, if_pos hc, List.takeWhile_append_of_pos hcs,
    List.dropWhile_append_of_pos hcs, htake.1, htake.2, List.append_nil]

/-- A word is read up to where it stops. -/
theorem Word.word?_append (hw : Word w) (hrest : Stops rest) : word? (w ++ rest) = some (w, rest) := by
  cases hw with
  | @plain c cs hc hcs =>
    have hplain := plainWord?_append hc hcs hrest
    unfold word?
    split
    case h_1 cs' heq =>
      -- a raw word would have its mark in the word, or where it stops
      obtain ⟨-, heq⟩ := List.cons.inj heq
      cases cs with
      | nil =>
        cases (show rest = '#' :: cs' from heq)
        exact absurd (hrest '#' rfl) (by decide)
      | cons d ds =>
        obtain ⟨rfl, -⟩ := List.cons.inj heq
        exact absurd (hcs '#' List.mem_cons_self) (by decide)
    case h_2 => exact hplain
  | @raw c cs hc hcs hraw =>
    have hplain := plainWord?_append hc hcs hrest
    change word? ('r' :: '#' :: (c :: cs ++ rest)) = _
    rw [word?, hplain]
    exact if_neg (by simpa using hraw)

/-! ### No literal begins like a word -/

theorem literalOpenings_eq : literalOpenings =
    [['r', '"'], ['r', '#', '"'], ['r', '#', '#'], ['b', '"'], ['b', '\''], ['b', 'r', '"'],
      ['b', 'r', '#'], ['c', '"'], ['c', 'r', '"'], ['c', 'r', '#']] := by
  decide

/-- Whether a text begins like a string or a character. -/
def BeginsLiteral (cs : List Char) : Prop := ∃ o ∈ literalOpenings, o <+: cs

/-- Characters of which one is no part of an identifier are not the beginning of a word where it stops, if
none could stand there. -/
theorem not_prefix_append {o : List Char} (hcs : ∀ d ∈ cs, Text.isIdentifierPart d = true)
    (hrest : Stops rest) (ho : ∀ q ∈ o, isGap q = false ∧ q ∉ stopMarks)
    (hpart : ∃ q ∈ o, Text.isIdentifierPart q = false) : ¬ o <+: cs ++ rest := by
  induction cs generalizing o with
  | nil =>
    obtain ⟨q, hq, -⟩ := hpart
    cases o with
    | nil => cases hq
    | cons p o =>
      rintro ⟨t, ht⟩
      cases (show p :: (o ++ t) = rest from ht)
      obtain ⟨hgap, hmark⟩ := ho p List.mem_cons_self
      rcases hrest p rfl with h | h
      · rw [hgap] at h
        cases h
      · exact hmark h
  | cons d ds ih =>
    obtain ⟨q, hq, hq'⟩ := hpart
    cases o with
    | nil => cases hq
    | cons p o =>
      rw [List.cons_append, List.cons_prefix_cons]
      rintro ⟨rfl, hprefix⟩
      have hne := ne_of_isIdentifierPart (hcs p List.mem_cons_self) hq'
      have hq : q ∈ o := (List.mem_cons.1 hq).resolve_left hne.symm
      exact ih (fun d hd => hcs d (List.mem_cons_of_mem _ hd))
        (fun q hq => ho q (List.mem_cons_of_mem _ hq)) ⟨q, hq, hq'⟩ hprefix

/-- No literal begins like a word. -/
theorem Word.not_beginsLiteral (hw : Word w) (hrest : Stops rest) : ¬ BeginsLiteral (w ++ rest) := by
  rintro ⟨o, ho, hprefix⟩
  cases hw with
  | @plain c cs hc hcs =>
    have hall : ∀ o ∈ literalOpenings, (o.all fun q => !isGap q && decide (q ∉ stopMarks)) = true
        ∧ (o.any fun q => !Text.isIdentifierPart q) = true := by
      decide
    simp only [List.all_eq_true, List.any_eq_true, Bool.and_eq_true, Bool.not_eq_true',
      decide_eq_true_eq] at hall
    obtain ⟨hchars, hpart⟩ := hall o ho
    refine not_prefix_append ?_ hrest hchars hpart hprefix
    exact List.forall_mem_cons.2 ⟨isIdentifierPart_of_isIdentifierStart hc, hcs⟩
  | @raw c cs hc hcs hraw =>
    have hmark : c = '"' ∨ c = '#' := by
      rw [literalOpenings_eq] at ho
      revert o
      simpa [List.cons_prefix_cons, eq_comm] using And.intro .inl .inr
    rcases hmark with rfl | rfl
    · exact absurd hc (by decide)
    · exact absurd hc (by decide)

/-- A raw string begins with a quote or with marks. -/
theorem exists_of_raw {k : StringKind} (h : (raw k cs).isSome = true) :
    ∃ o ∈ [['"'], ['#', '"'], ['#', '#']], o <+: cs := by
  unfold raw at h
  cases cs with
  | nil => cases h
  | cons d ds =>
    by_cases hquote : d = '"'
    · exact ⟨['"'], by decide, ds, by rw [hquote]; rfl⟩
    · by_cases hd : d = '#'
      · subst hd
        cases ds with
        | nil => cases h
        | cons e es =>
          by_cases he : e = '#'
          · exact ⟨['#', '#'], by decide, es, by rw [he]; rfl⟩
          · by_cases hquote' : e = '"'
            · exact ⟨['#', '"'], by decide, es, by rw [hquote']; rfl⟩
            · simp [he, hquote'] at h
      · simp [hd, hquote] at h

/-- A string begins with the letters of its kind, and a quote or an `r`. -/
theorem eq_of_string? {k : StringKind} (h : (string? k cs).isSome = true) :
    ∃ rest, cs = k.opening ++ '"' :: rest ∨ cs = k.opening ++ 'r' :: rest ∧ (raw k rest).isSome = true := by
  unfold string? at h
  split at h
  case isFalse => cases h
  case isTrue hopening =>
    obtain ⟨t, rfl⟩ := List.isPrefixOf_iff_prefix.1 hopening
    rw [List.drop_left] at h
    split at h
    · exact ⟨_, .inl rfl⟩
    · exact ⟨_, .inr ⟨rfl, h⟩⟩
    · cases h

/-- What begins like a word and is a string begins like one. -/
theorem beginsLiteral_of_string? {k : StringKind} (hc : Text.isIdentifierStart c = true)
    (h : (string? k (c :: cs)).isSome = true) : BeginsLiteral (c :: cs) := by
  obtain ⟨rest, heq | ⟨heq, hraw⟩⟩ := eq_of_string? h
  · cases k with
    | text =>
      obtain ⟨rfl, -⟩ := List.cons.inj heq
      exact absurd hc (by decide)
    | bytes => exact ⟨['b', '"'], by decide, rest, heq.symm⟩
    | zeroEnded => exact ⟨['c', '"'], by decide, rest, heq.symm⟩
  · obtain ⟨o, ho, hprefix⟩ := exists_of_raw hraw
    have hall : ∀ o ∈ [['"'], ['#', '"'], ['#', '#']],
        ∃ o' ∈ literalOpenings, o' <+: k.opening ++ 'r' :: o := by
      cases k <;> decide
    obtain ⟨o', ho', hprefix'⟩ := hall o ho
    refine ⟨o', ho', hprefix'.trans ?_⟩
    rw [heq, List.prefix_append_right_inj, List.cons_prefix_cons]
    exact ⟨rfl, hprefix⟩

theorem isAsciiDigit_of_isIdentifierStart (h : Text.isIdentifierStart c = true) :
    Text.isAsciiDigit c = false := by
  rw [← Bool.not_eq_true]
  intro hdigit
  have hall : ∀ n ∈ List.range' 48 10, Text.isIdentifierStart (Char.ofNat n) = false := by decide
  have hmem : c.toNat ∈ List.range' 48 10 := by
    simp only [Text.isAsciiDigit, Bool.and_eq_true, decide_eq_true_eq, Char.le_def,
      UInt32.le_iff_toNat_le] at hdigit
    exact List.mem_range'_1.2 ⟨hdigit.1, Nat.lt_succ_of_le hdigit.2⟩
  have hstart := hall _ hmem
  rw [Char.ofNat_toNat, h] at hstart
  cases hstart

/-- Digits that are none of decimal numbers are worth ten or more. -/
theorem le_of_hexValue? {d : Nat} (hc : Text.isAsciiDigit c = false) (h : hexValue? c = some d) :
    10 ≤ d := by
  unfold hexValue? at h
  split at h
  · rename_i hdigit
    simp [Text.isAsciiDigit, hdigit.1, hdigit.2] at hc
  · split at h
    · cases h
      exact Nat.le_add_left ..
    · split at h
      · cases h
        exact Nat.le_add_left ..
      · cases h

theorem literal?_eq_none (hc : Text.isIdentifierStart c = true) (h : ¬ BeginsLiteral (c :: cs)) :
    literal? (c :: cs) = none := by
  have hstring (k : StringKind) : string? k (c :: cs) = none :=
    Option.not_isSome_iff_eq_none.1 fun hsome => h (beginsLiteral_of_string? hc hsome)
  have hchar : char? (c :: cs) = none := by
    unfold char?
    split
    case h_1 rest heq =>
      exact absurd ⟨['b', '\''], by decide, rest, heq.symm⟩ h
    case h_2 rest heq =>
      obtain ⟨rfl, -⟩ := List.cons.inj heq
      exact absurd hc (by decide)
    case h_3 => rfl
  have hdigit := isAsciiDigit_of_isIdentifierStart hc
  have hpointed : pointed? (c :: cs) = none := by
    unfold pointed?
    simp [hdigit]
  have hinteger : integer? (c :: cs) = none := by
    have hzero (rest : List Char) : c :: cs ≠ '0' :: rest := by
      intro heq
      rw [(List.cons.inj heq).1] at hdigit
      cases hdigit
    unfold integer?
    split
    · exact absurd ‹_› (hzero _)
    · exact absurd ‹_› (hzero _)
    · exact absurd ‹_› (hzero _)
    · rw [integerDigits]
      cases hvalue : hexValue? c with
      | none => simp
      | some d => simp [Nat.not_lt.2 (le_of_hexValue? hdigit hvalue)]
  simp only [literal?, hstring, hchar, hpointed, hinteger, Option.bind_none]

/-- A lifetime is no word. -/
theorem lifetime?_ne_word (cs : List Char) {s : String} : lifetime? cs ≠ some (.word s, rest) := by
  unfold lifetime?
  split
  · split <;> nofun
  · nofun

/-- A token that is a word is read as one. -/
theorem word?_of_token? {s : String} (h : token? cs = some (.word s, rest)) :
    ∃ w, word? cs = some (w, rest) ∧ s = String.ofList w := by
  unfold token? at h
  split at h
  · cases h
  · split at h
    · cases h
    · cases h
    · cases h
    · split at h
      · split at h
        · exact absurd h (lifetime?_ne_word _)
        · cases h
      · obtain ⟨-, h⟩ := Option.ite_none_left_eq_some.1 h
        obtain ⟨⟨w, rest'⟩, hw, h⟩ := Option.map_eq_some_iff.1 h
        obtain ⟨hs, rfl⟩ := Prod.mk.inj h
        exact ⟨w, hw, (Token.word.inj hs).symm⟩

/-- No mark and no delimiter begins like a word. -/
theorem startsMark_of_isIdentifierStart (hc : Text.isIdentifierStart c = true) :
    startsMark (c :: cs) = false := by
  have hall : (marks.all fun d => !Text.isIdentifierStart d) = true := by decide
  simp only [List.all_eq_true, Bool.not_eq_true'] at hall
  have hmarks : marks.contains c = false := by
    rw [List.contains_eq_mem, decide_eq_false_iff_not]
    exact fun hmem => ne_of_isIdentifierStart hc (hall c hmem) rfl
  unfold startsMark
  split
  · rfl
  · rfl
  · obtain ⟨rfl, -⟩ := List.cons.inj ‹_›
    exact hmarks
  · rfl

theorem ofDelimiter?_eq_none (h : ∀ d ∈ Delimiter.all, c ≠ d.opening ∧ c ≠ d.closing) :
    Delimiter.ofOpening? c = none ∧ Delimiter.ofClosing? c = none :=
  ⟨List.find?_eq_none.2 fun d hd => by simpa using (h d hd).1.symm,
    List.find?_eq_none.2 fun d hd => by simpa using (h d hd).2.symm⟩

theorem ofDelimiter?_of_isIdentifierStart (hc : Text.isIdentifierStart c = true) :
    Delimiter.ofOpening? c = none ∧ Delimiter.ofClosing? c = none := by
  have hall : ∀ d ∈ Delimiter.all, Text.isIdentifierStart d.opening = false
      ∧ Text.isIdentifierStart d.closing = false := by
    decide
  exact ofDelimiter?_eq_none fun d hd =>
    ⟨ne_of_isIdentifierStart hc (hall d hd).1, ne_of_isIdentifierStart hc (hall d hd).2⟩

/-- **A word is a token,** up to where it stops. -/
theorem Word.token?_append (hw : Word w) (hrest : Stops rest) :
    token? (w ++ rest) = some (.word (String.ofList w), rest) := by
  have hword := hw.word?_append hrest
  have hbegins := hw.not_beginsLiteral hrest
  have hopenings : literalOpenings.any (·.isPrefixOf (w ++ rest)) = false := by
    rw [← Bool.not_eq_true, List.any_eq_true]
    rintro ⟨o, ho, hprefix⟩
    exact hbegins ⟨o, ho, List.isPrefixOf_iff_prefix.1 hprefix⟩
  obtain ⟨c, cs, rfl, hc⟩ := hw.exists_cons
  obtain ⟨hopening, hclosing⟩ := ofDelimiter?_of_isIdentifierStart hc
  rw [List.cons_append] at hword hbegins hopenings ⊢
  unfold token?
  simp only [hopening, hclosing, literal?_eq_none hc hbegins, startsMark_of_isIdentifierStart hc,
    hopenings, hword, Bool.false_eq_true, if_false]
  rfl

end Source
end Loadable
