/-
# Literals are tokens

What reads as a literal on its own reads as the same literal with more text behind it, if it stops there
(`Source.literal?_append`): strings and characters end with their quote, so their readers give what they gave
(`Source.cooked_more`, `Source.rawBody_more`, `Source.char?_more`), and numbers and the words on literals end where
something else begins.  Neither blanks and comments nor delimiters begin like a literal, so a literal is a token
(`Source.token?_of_literal?`).
-/

import Loadable.Proofs.Skipping
import Loadable.Proofs.StringLiterals

namespace Loadable
namespace Source

variable {c d : Char} {cs rest v e : List Char} {k : StringKind}

/-! ### Strings and characters -/

theorem scalarDigits_more {value count : ℕ} (h : scalarDigits value count cs = some (c, rest)) (e : List Char) :
    scalarDigits value count (cs ++ e) = some (c, rest ++ e) := by
  fun_induction scalarDigits value count cs <;> grind [scalarDigits]

theorem escape?_more (h : escape? k cs = some (c, rest)) (e : List Char) :
    escape? k (cs ++ e) = some (c, rest ++ e) := by
  unfold escape? at h
  split at h
  case h_1 a b rest' =>
    obtain ⟨d, hd, h⟩ := Option.map_eq_some_iff.1 h
    cases h
    simp only [List.cons_append, escape?, hd, Option.map_some]
  case h_2 rest' =>
    obtain ⟨hk, h⟩ := Option.ite_none_left_eq_some.1 h
    obtain ⟨h, hzero⟩ := Option.filter_eq_some_iff.1 h
    rw [List.cons_append, List.cons_append, escape?, if_neg hk, scalarDigits_more h]
    exact Option.filter_eq_some_iff.2 ⟨rfl, hzero⟩
  case h_3 rest' =>
    obtain ⟨hk, h⟩ := Option.ite_none_left_eq_some.1 h
    cases h
    rw [List.cons_append, escape?, if_neg hk]
  case h_4 d rest' hpair hbrace hzero =>
    obtain ⟨d', hd, h⟩ := Option.map_eq_some_iff.1 h
    cases h
    have hx : d ≠ 'x' ∧ d ≠ 'u' ∧ d ≠ '0' := by
      refine ⟨?_, ?_, ?_⟩ <;> rintro rfl <;> cases hd
    rw [List.cons_append, escape?.eq_4, hd]
    · rfl
    all_goals simp [hx]
  case h_5 => cases h

/-- No escape begins with the end of a line. -/
theorem ne_of_escape? (h : escape? k (c :: cs) = some (d, rest)) : c ≠ '\n' ∧ c ≠ '\r' := by
  constructor <;> rintro rfl <;> cases h

/-- A string ends where it ended, with more text behind it. -/
theorem cooked_more {skipping : Bool} (h : cooked k skipping cs = some (v, rest)) (e : List Char) :
    cooked k skipping (cs ++ e) = some (v, rest ++ e) := by
  fun_induction cooked k skipping cs generalizing v with
  | case1 => cases h
  | case2 => cases h; rw [List.cons_append, cooked]
  | case3 skipping cs ih => rw [List.cons_append, List.cons_append, cooked, ih h]
  | case4 skipping cs ih => rw [List.cons_append, List.cons_append, List.cons_append, cooked, ih h]
  | case5 => cases h
  | case6 skipping cs _ _ d r hesc ih =>
    obtain ⟨⟨v', r'⟩, hv, h⟩ := Option.map_eq_some_iff.1 h
    cases h
    have hmore := escape?_more hesc e
    cases cs with
    | nil => cases hesc
    | cons b cs =>
      obtain ⟨hnewline, hreturn⟩ := ne_of_escape? hesc
      rw [List.cons_append, List.cons_append, cooked.eq_5]
      · split
        · simp_all
        · simp_all
      all_goals simp [hnewline, hreturn]
  | case7 cs ih => rw [List.cons_append, List.cons_append, cooked, if_pos rfl, ih h]
  | case8 skipping cs hskipping ih =>
    obtain ⟨⟨v', r'⟩, hv, h⟩ := Option.map_eq_some_iff.1 h
    cases h
    rw [List.cons_append, List.cons_append, cooked, if_neg hskipping, ih hv]
    rfl
  | case9 => cases h
  | case10 skipping c cs hquote _ _ hslash _ hallowed hskips ih =>
    obtain ⟨hreturn, hallows⟩ := not_or.1 hallowed
    rw [List.cons_append, cooked_cons hquote hslash hreturn, hskips, ih h]
    simp_all
  | case11 skipping c cs hquote _ _ hslash _ hallowed hskips ih =>
    obtain ⟨⟨v', r'⟩, hv, h⟩ := Option.map_eq_some_iff.1 h
    cases h
    obtain ⟨hreturn, hallows⟩ := not_or.1 hallowed
    rw [List.cons_append, cooked_cons hquote hslash hreturn, ih hv]
    simp_all

/-- A raw string has a quote to end it. -/
theorem mem_of_rawBody {hashes : ℕ} (h : rawBody k hashes cs = some (v, rest)) : '"' ∈ cs := by
  fun_induction rawBody k hashes cs generalizing v with
  | case1 => cases h
  | case2 => exact List.mem_cons_self
  | case3 => exact List.mem_cons_self
  | case4 cs ih =>
    obtain ⟨⟨v', r'⟩, hv, h⟩ := Option.map_eq_some_iff.1 h
    cases h
    exact List.mem_cons_of_mem _ (List.mem_cons_of_mem _ (ih hv))
  | case5 => cases h
  | case6 c cs _ _ _ ih =>
    obtain ⟨⟨v', r'⟩, hv, h⟩ := Option.map_eq_some_iff.1 h
    cases h
    exact List.mem_cons_of_mem _ (ih hv)

theorem rawBody_more {hashes : ℕ} (h : rawBody k hashes cs = some (v, rest)) (e : List Char) :
    rawBody k hashes (cs ++ e) = some (v, rest ++ e) := by
  fun_induction rawBody k hashes cs generalizing v with
  | case1 => cases h
  | case2 cs hmarks =>
    cases h
    rw [← List.take_append_drop hashes cs, hmarks, List.cons_append, List.append_assoc, rawBody_close,
      List.drop_left' List.length_replicate]
  | case3 cs hmarks ih =>
    obtain ⟨⟨v', r'⟩, hv, h⟩ := Option.map_eq_some_iff.1 h
    cases h
    have hopen : ¬ hashMarks hashes <+: cs ++ e := by
      obtain ⟨a, b, rfl⟩ := List.append_of_mem (mem_of_rawBody hv)
      rw [List.append_assoc, List.cons_append]
      intro hprefix
      have h := (hashMarks_before_quote hprefix).trans (List.prefix_append a ('"' :: b))
      rw [List.prefix_iff_eq_take, List.length_replicate] at h
      exact hmarks h.symm
    rw [List.cons_append, rawBody_quote hopen, ih hv]
    rfl
  | case4 cs ih =>
    obtain ⟨⟨v', r'⟩, hv, h⟩ := Option.map_eq_some_iff.1 h
    cases h
    rw [List.cons_append, List.cons_append, rawBody, ih hv]
    rfl
  | case5 => cases h
  | case6 c cs hquote hreturn hallowed ih =>
    obtain ⟨⟨v', r'⟩, hv, h⟩ := Option.map_eq_some_iff.1 h
    cases h
    obtain ⟨hreturn, hallows⟩ := not_or.1 hallowed
    rw [List.cons_append, rawBody_cons hquote hreturn, ih hv]
    simp_all

theorem raw_more (h : raw k cs = some (v, rest)) (e : List Char) : raw k (cs ++ e) = some (v, rest ++ e) := by
  obtain ⟨hashes, ds, hhashes, rfl, hbody⟩ := raw_eq_some_iff.1 h
  exact raw_eq_some_iff.2 ⟨hashes, ds ++ e, hhashes, by simp, rawBody_more hbody e⟩

theorem string?_more (h : string? k cs = some (v, rest)) (e : List Char) :
    string? k (cs ++ e) = some (v, rest ++ e) := by
  obtain ⟨r, rfl | ⟨rfl, hraw⟩⟩ := eq_of_string? (Option.isSome_of_eq_some h)
  · cases k <;> exact cooked_more h e
  · cases k <;> exact raw_more h e

/-- A character between quotes is an escape, or stands there as it is. -/
theorem quotedChar?_eq_some_iff : quotedChar? k cs = some rest
    ↔ (∃ es c, cs = '\\' :: es ∧ escape? k es = some (c, '\'' :: rest))
      ∨ ∃ c, c ≠ '\\' ∧ k.allows c = true ∧ cs = c :: '\'' :: rest := by
  constructor
  · intro h
    unfold quotedChar? at h
    dsimp only at h
    split at h
    case h_1 hbody =>
      cases h
      split at hbody
      case h_1 es =>
        obtain ⟨⟨c, r⟩, hc, hbody⟩ := Option.map_eq_some_iff.1 hbody
        cases hbody
        exact .inl ⟨es, c, rfl, hc⟩
      case h_2 c r hslash =>
        obtain ⟨hallows, hbody⟩ := Option.ite_none_right_eq_some.1 hbody
        cases hbody
        exact .inr ⟨c, hslash, hallows, rfl⟩
      case h_3 => cases hbody
    case h_2 => cases h
  · unfold quotedChar?
    rintro (⟨es, c, rfl, h⟩ | ⟨c, hslash, hallows, rfl⟩)
    · simp [h]
    · simp [hallows]

theorem quotedChar?_more (h : quotedChar? k cs = some rest) (e : List Char) :
    quotedChar? k (cs ++ e) = some (rest ++ e) := by
  rw [quotedChar?_eq_some_iff] at h ⊢
  rcases h with ⟨es, c, rfl, h⟩ | ⟨c, hslash, hallows, rfl⟩
  · exact .inl ⟨es ++ e, c, rfl, escape?_more h e⟩
  · exact .inr ⟨c, hslash, hallows, rfl⟩

theorem char?_more (h : char? cs = some rest) (e : List Char) : char? (cs ++ e) = some (rest ++ e) := by
  unfold char? at h
  split at h
  · exact quotedChar?_more h e
  · exact quotedChar?_more h e
  · cases h

/-! ### Numbers -/

theorem isPlainPart_of_hexValue? {d : ℕ} (h : hexValue? c = some d) : Text.isPlainPart c = true := by
  unfold hexValue? at h
  simp only [Text.isPlainPart, Text.isAsciiLetter, Text.isAsciiDigit, Bool.or_eq_true, Bool.and_eq_true,
    decide_eq_true_eq]
  split at h
  case isTrue hdigit => exact .inl (.inr hdigit)
  case isFalse =>
    split at h
    case isTrue hsmall => exact .inl (.inl (.inl ⟨hsmall.1, Nat.le_trans hsmall.2 (by decide)⟩))
    case isFalse =>
      obtain ⟨⟨hlow, hhigh⟩, -⟩ := Option.ite_none_right_eq_some.1 h
      exact .inl (.inl (.inr ⟨hlow, Nat.le_trans hhigh (by decide)⟩))

/-- A character that is no part of an identifier is no part of a number, but where a mark may be one. -/
structure NoPart (c : Char) : Prop where
  hex : hexValue? c = none
  digit : Text.isAsciiDigit c = false
  start : Text.isIdentifierStart c = false
  letter : c ≠ '_' ∧ c ≠ 'e' ∧ c ≠ 'E'

theorem noPart_of_isIdentifierPart (h : Text.isIdentifierPart c = false) : NoPart c where
  hex := by
    rw [Option.eq_none_iff_forall_ne_some]
    intro d hd
    rw [Text.isIdentifierPart_of_isPlainPart (isPlainPart_of_hexValue? hd)] at h
    cases h
  digit := by
    rw [← Bool.not_eq_true]
    intro hdigit
    rw [Text.isIdentifierPart_of_isPlainPart (by simp [Text.isPlainPart, hdigit])] at h
    cases h
  start := by
    rw [← Bool.not_eq_true]
    intro hstart
    rw [isIdentifierPart_of_isIdentifierStart hstart] at h
    cases h
  letter := by
    refine ⟨?_, ?_, ?_⟩ <;> rintro rfl <;> exact absurd h (by decide)

theorem noPart_of_stops (h : isGap c = true ∨ c ∈ stopMarks) : NoPart c :=
  noPart_of_isIdentifierPart (isIdentifierPart_of_stops h)

theorem exponent_append (he : Stops e) (signed valued : Bool) (cs : List Char) :
    exponent signed valued (cs ++ e) = (exponent signed valued cs).map (· ++ e) := by
  induction cs generalizing signed valued with
  | nil =>
    cases e with
    | nil => cases valued <;> rfl
    | cons c e =>
      have hc := he c rfl
      have hsign : c ≠ '+' ∧ c ≠ '-' := by
        constructor <;> rintro rfl <;> exact absurd hc (by decide)
      have hpart := noPart_of_stops hc
      cases valued <;> simp [exponent, hpart.digit, hpart.letter, hsign]
  | cons c cs ih =>
    simp only [List.cons_append, exponent, ih]
    split_ifs <;> simp

theorem integerDigits_append (he : Stops e) (base : ℕ) (empty : Bool) (cs : List Char) :
    integerDigits base empty (cs ++ e) = (integerDigits base empty cs).map (· ++ e) := by
  induction cs generalizing empty with
  | nil =>
    cases e with
    | nil => cases empty <;> rfl
    | cons c e =>
      have hpart := noPart_of_stops (he c rfl)
      cases empty <;> simp [integerDigits, hpart.hex, hpart.letter]
  | cons c cs ih =>
    simp only [List.cons_append, integerDigits, ih]
    split <;> split_ifs <;> simp

theorem integer?_append (he : Stops e) (hcs : cs ≠ []) : integer? (cs ++ e) = (integer? cs).map (· ++ e) := by
  have decimal {c : Char} {cs : List Char} (h : c = '0' → ∀ d ∈ cs.head?, d ∉ ['x', 'o', 'b']) :
      integer? (c :: cs) = integerDigits 10 true (c :: cs) := by
    refine integer?.eq_4 _ ?_ ?_ ?_ <;> rintro rest heq <;> cases heq <;> exact absurd (h rfl _ rfl) (by decide)
  match cs with
  | [] => exact absurd rfl hcs
  | [c] =>
    have hd : ∀ d ∈ e.head?, d ∉ ['x', 'o', 'b'] := by
      intro d hd hmem
      have hpart : ∀ d ∈ ['x', 'o', 'b'], Text.isIdentifierPart d = true :=
        List.forall_iff_forall_mem.1 (by decide)
      have hstops := isIdentifierPart_of_stops (he d hd)
      rw [hpart d hmem] at hstops
      cases hstops
    rw [List.singleton_append, decimal fun _ => hd, decimal (by simp)]
    exact integerDigits_append he 10 true [c]
  | c :: d :: cs =>
    by_cases hbase : c = '0' → d ∉ ['x', 'o', 'b']
    · have hd (es : List Char) (hc : c = '0') : ∀ b ∈ (d :: es).head?, b ∉ ['x', 'o', 'b'] :=
        fun b hb => Option.some.inj hb ▸ hbase hc
      rw [List.cons_append, List.cons_append, decimal (hd _), decimal (hd _)]
      exact integerDigits_append he 10 true (c :: d :: cs)
    · obtain ⟨rfl, hd⟩ := Classical.not_imp.1 hbase
      rw [not_not] at hd
      simp only [List.mem_cons, List.not_mem_nil, or_false] at hd
      rcases hd with rfl | rfl | rfl
      · exact integerDigits_append he 16 true cs
      · exact integerDigits_append he 8 true cs
      · exact integerDigits_append he 2 true cs

theorem dropWhile_append (he : Stops e) {p : Char → Bool}
    (hp : ∀ c, Text.isIdentifierPart c = false → p c = false) (cs : List Char) :
    (cs ++ e).dropWhile p = cs.dropWhile p ++ e := by
  induction cs with
  | nil =>
    cases e with
    | nil => rfl
    | cons c e =>
      have hc := hp c (isIdentifierPart_of_stops (he c rfl))
      exact List.dropWhile_cons_of_neg (by rw [hc]; exact Bool.false_ne_true)
  | cons c cs ih =>
    rw [List.cons_append, List.dropWhile_cons, List.dropWhile_cons, ih]
    split <;> rfl

/-- The start of what follows. -/
theorem head?_append_stops (he : Stops e) {p : Char → Bool}
    (hp : ∀ c, isGap c = true ∨ c ∈ stopMarks → p c = false) (cs : List Char) :
    ((cs ++ e).head?.map p).getD false = (cs.head?.map p).getD false := by
  cases cs with
  | nil =>
    cases e with
    | nil => rfl
    | cons c e => exact hp c (he c rfl)
  | cons c cs => rfl

theorem afterWord_append (he : Stops e) (cs : List Char) : afterWord (cs ++ e) = afterWord cs ++ e := by
  cases cs with
  | nil =>
    cases e with
    | nil => rfl
    | cons c e =>
      have hpart := noPart_of_stops (he c rfl)
      rw [List.nil_append, afterWord, if_neg (by rw [hpart.start]; exact Bool.false_ne_true)]
      rfl
  | cons c cs =>
    rw [List.cons_append, afterWord, afterWord, dropWhile_append he fun _ h => h]
    split <;> rfl

theorem endNumber_append (he : Stops e) (cs : List Char) :
    endNumber (cs ++ e) = (endNumber cs).map (· ++ e) := by
  unfold endNumber
  dsimp only
  rw [afterWord_append he, head?_append_stops he fun _ => isIdentifierPart_of_stops]
  split <;> rfl

theorem pointed?_append (he : Stops e) (cs : List Char) :
    pointed? (cs ++ e) = (pointed? cs).map (· ++ e) := by
  have hdigits (c : Char) (h : Text.isIdentifierPart c = false) : (Text.isAsciiDigit c || c == '_') = false := by
    have hpart := noPart_of_isIdentifierPart h
    simp [hpart.digit, hpart.letter]
  have hdot (c : Char) (h : isGap c = true ∨ c ∈ stopMarks) : (c == '.' || Text.isIdentifierStart c) = false := by
    have hc : c ≠ '.' := by
      rintro rfl
      exact absurd h (by decide)
    simp [(noPart_of_stops h).start, hc]
  have hdigit (c : Char) (h : isGap c = true ∨ c ∈ stopMarks) : Text.isAsciiDigit c = false :=
    (noPart_of_stops h).digit
  have hexponent (c : Char) (h : isGap c = true ∨ c ∈ stopMarks) : (c == 'e' || c == 'E') = false := by
    simp [(noPart_of_stops h).letter]
  unfold pointed?
  dsimp only
  rw [head?_append_stops he hdigit, dropWhile_append he hdigits]
  split
  case isFalse => rfl
  case isTrue =>
    cases cs.dropWhile fun c => Text.isAsciiDigit c || c == '_' with
    | nil =>
      cases e with
      | nil => rfl
      | cons c e =>
        dsimp only [List.nil_append]
        split
        case h_1 rest heq =>
          cases heq
          exact absurd (he '.' rfl) (by decide)
        case h_2 heq =>
          cases heq
          rw [if_neg (by rw [hexponent c (he c rfl)]; exact Bool.false_ne_true)]
          rfl
        case h_3 heq => cases heq
    | cons c ds =>
      by_cases hc : c = '.'
      · subst hc
        simp only [List.cons_append, head?_append_stops he hdot, dropWhile_append he hdigits]
        split
        case isTrue => rfl
        case isFalse =>
          cases ds.dropWhile fun c => Text.isAsciiDigit c || c == '_' with
          | nil =>
            cases e with
            | nil => rfl
            | cons c e => simp [hexponent c (he c rfl)]
          | cons d es =>
            dsimp only [List.cons_append]
            rw [exponent_append he]
            cases exponent false false es <;> split <;> rfl
      · simp only [List.cons_append]
        rw [exponent_append he]
        split <;> rfl

/-! ### Literals -/

theorem string?_eq_none (hquote : ∀ rest, cs ≠ k.opening ++ '"' :: rest)
    (hraw : ∀ rest, cs ≠ k.opening ++ 'r' :: rest) : string? k cs = none := by
  refine Option.not_isSome_iff_eq_none.1 fun h => ?_
  obtain ⟨rest, heq | ⟨heq, -⟩⟩ := eq_of_string? h
  · exact hquote rest heq
  · exact hraw rest heq

/-- What reads as a string of one kind is none of another kind, whatever is behind it. -/
theorem string?_append_eq_none (h : string? k cs = some (v, rest)) (k' : StringKind) (hk : k ≠ k')
    (e : List Char) : string? k' (cs ++ e) = none := by
  obtain ⟨r, rfl | ⟨rfl, -⟩⟩ := eq_of_string? (Option.isSome_of_eq_some h) <;> cases k <;> cases k'
    <;> exact string?_eq_none (by simp [StringKind.opening] at hk ⊢) (by simp [StringKind.opening] at hk ⊢)

/-- Nor is a character a string. -/
theorem string?_of_char? (h : char? cs = some rest) (e : List Char) : string? k (cs ++ e) = none := by
  unfold char? at h
  split at h
  · cases k <;> exact string?_eq_none (by simp [StringKind.opening]) (by simp [StringKind.opening])
  · cases k <;> exact string?_eq_none (by simp [StringKind.opening]) (by simp [StringKind.opening])
  · cases h

/-- What begins with a digit is no string. -/
theorem string?_of_isAsciiDigit (hc : Text.isAsciiDigit c = true) (cs : List Char) :
    string? k (c :: cs) = none := by
  have hne : c ≠ '"' ∧ c ≠ 'r' ∧ c ≠ 'b' ∧ c ≠ 'c' := by
    refine ⟨?_, ?_, ?_, ?_⟩ <;> rintro rfl <;> exact absurd hc (by decide)
  cases k <;> exact string?_eq_none (by simp [StringKind.opening, hne]) (by simp [StringKind.opening, hne])

theorem char?_of_isAsciiDigit (hc : Text.isAsciiDigit c = true) (cs : List Char) : char? (c :: cs) = none := by
  have hne : c ≠ '\'' ∧ c ≠ 'b' := by
    constructor <;> rintro rfl <;> exact absurd hc (by decide)
  simp [char?, hne]

/-- A number begins with a digit. -/
theorem exists_digit_of_number (h : (pointed? cs).isSome = true ∨ (integer? cs).isSome = true) :
    ∃ c ds, cs = c :: ds ∧ Text.isAsciiDigit c = true := by
  cases cs with
  | nil => rcases h with h | h <;> cases h
  | cons c ds =>
    refine ⟨c, ds, rfl, ?_⟩
    by_contra hc
    rw [Bool.not_eq_true] at hc
    rcases h with h | h
    · simp [pointed?, hc] at h
    · unfold integer? at h
      split at h
      · rename_i heq
        cases heq
        cases hc
      · rename_i heq
        cases heq
        cases hc
      · rename_i heq
        cases heq
        cases hc
      · rw [integerDigits] at h
        cases hvalue : hexValue? c with
        | none => simp [hvalue] at h
        | some d => simp [hvalue, Nat.not_lt.2 (le_of_hexValue? hc hvalue)] at h

/-- The text behind a number, if nothing runs on. -/
def number? (cs : List Char) : Option (List Char) :=
  ((pointed? cs).bind endNumber).orElse fun _ => (integer? cs).bind endNumber

theorem number?_append (he : Stops e) (hcs : cs ≠ []) : number? (cs ++ e) = (number? cs).map (· ++ e) := by
  have ended {read : Option (List Char)} :
      (read.map (· ++ e)).bind endNumber = (read.bind endNumber).map (· ++ e) := by
    cases read with
    | none => rfl
    | some rest => exact endNumber_append he rest
  rw [number?, number?, pointed?_append he, integer?_append he hcs, ended, ended]
  cases (pointed? cs).bind endNumber <;> rfl

theorem literal?_of_isAsciiDigit (hc : Text.isAsciiDigit c = true) (cs : List Char) :
    literal? (c :: cs) = (number? (c :: cs)).map (Literal.upTo .number (c :: cs)) := by
  simp only [literal?, string?_of_isAsciiDigit hc, char?_of_isAsciiDigit hc, number?]
  cases (pointed? (c :: cs)).bind endNumber <;> cases (integer? (c :: cs)).bind endNumber <;> rfl

/-- **A literal stays one** with more text behind it, if it stops there. -/
theorem literal?_append {l : Literal} (h : literal? cs = some (l, [])) (he : Stops e) :
    literal? (cs ++ e) = some (l, e) := by
  have whole {kind : LiteralKind} {rest : List Char} (h : some (Literal.upTo kind cs rest) = some (l, [])) :
      rest = [] ∧ l = ⟨String.ofList cs, kind⟩ := by
    obtain ⟨hl, rfl⟩ := Prod.mk.inj (Option.some.inj h)
    refine ⟨rfl, ?_⟩
    rw [← hl, List.length_nil, Nat.sub_zero, List.take_length]
  have ended {kind : LiteralKind} {rest : List Char} (hrest : afterWord rest = []) :
      Literal.upTo kind (cs ++ e) (afterWord (rest ++ e)) = (⟨String.ofList cs, kind⟩, e) := by
    rw [afterWord_append he, hrest, List.nil_append, upTo_append]
  have hliteral := h
  unfold literal? at h
  split at h
  case h_1 value rest hstring =>
    obtain ⟨hrest, rfl⟩ := whole h
    rw [literal?, string?_more hstring e]
    exact congrArg some (ended hrest)
  case h_2 value rest _ hstring =>
    obtain ⟨hrest, rfl⟩ := whole h
    rw [literal?, string?_more hstring e, string?_append_eq_none hstring .text (by decide) e]
    exact congrArg some (ended hrest)
  case h_3 value rest _ _ hstring =>
    obtain ⟨hrest, rfl⟩ := whole h
    rw [literal?, string?_more hstring e, string?_append_eq_none hstring .text (by decide) e,
      string?_append_eq_none hstring .bytes (by decide) e]
    exact congrArg some (ended hrest)
  case h_4 rest _ _ _ hchar =>
    obtain ⟨hrest, rfl⟩ := whole h
    simp only [literal?, char?_more hchar e, string?_of_char? hchar e]
    exact congrArg some (ended hrest)
  case h_5 =>
    have hnumber : (pointed? cs).isSome = true ∨ (integer? cs).isSome = true := by
      by_contra hnone
      obtain ⟨hpointed, hinteger⟩ := not_or.1 hnone
      rw [Option.not_isSome_iff_eq_none.1 hpointed, Option.not_isSome_iff_eq_none.1 hinteger] at h
      cases h
    obtain ⟨c, ds, rfl, hc⟩ := exists_digit_of_number hnumber
    rw [literal?_of_isAsciiDigit hc] at hliteral
    obtain ⟨rest, hrest, hwhole⟩ := Option.map_eq_some_iff.1 hliteral
    obtain ⟨rfl, rfl⟩ := whole (congrArg some hwhole)
    have happend := number?_append he (List.cons_ne_nil c ds)
    rw [List.cons_append] at happend
    rw [List.cons_append, literal?_of_isAsciiDigit hc, happend, hrest]
    exact congrArg some (upTo_append .number (c :: ds) e)

/-- What a literal may begin with. -/
def LeadsLiteral (c : Char) : Prop := c ∈ ['"', '\''] ∨ Text.isIdentifierPart c = true

theorem leadsLiteral_of_literal? {r : Literal × List Char} (h : literal? (c :: cs) = some r) : LeadsLiteral c := by
  by_contra hlead
  obtain ⟨hquotes, hpart⟩ := not_or.1 hlead
  have hletters : ∀ d ∈ ['r', 'b', 'c'], c ≠ d := by
    rintro d hd rfl
    have hparts : ∀ d ∈ ['r', 'b', 'c'], Text.isIdentifierPart d = true :=
      List.forall_iff_forall_mem.1 (by decide)
    exact hpart (hparts c hd)
  simp only [List.mem_cons, List.not_mem_nil, or_false, not_or, forall_eq_or_imp, forall_eq] at hquotes hletters
  have hstring (k : StringKind) : string? k (c :: cs) = none := by
    cases k <;> exact string?_eq_none (by simp [StringKind.opening, hquotes, hletters])
      (by simp [StringKind.opening, hletters])
  have hchar : char? (c :: cs) = none := by simp [char?, hquotes, hletters]
  have hdigit : ¬ Text.isAsciiDigit c = true := fun hdigit =>
    hpart (Text.isIdentifierPart_of_isPlainPart (by simp [Text.isPlainPart, hdigit]))
  have hpointed : pointed? (c :: cs) = none := Option.not_isSome_iff_eq_none.1 fun hsome => by
    obtain ⟨_, _, heq, hc⟩ := exists_digit_of_number (.inl hsome)
    exact hdigit ((List.cons.inj heq).1 ▸ hc)
  have hinteger : integer? (c :: cs) = none := Option.not_isSome_iff_eq_none.1 fun hsome => by
    obtain ⟨_, _, heq, hc⟩ := exists_digit_of_number (.inr hsome)
    exact hdigit ((List.cons.inj heq).1 ▸ hc)
  simp [literal?, hstring, hchar, hpointed, hinteger] at h

/-- Neither blanks and comments nor delimiters begin like a literal. -/
theorem token?_of_literal? {l : Literal} (h : literal? cs = some (l, rest)) :
    Solid cs ∧ token? cs = some (.literal l, rest) := by
  cases cs with
  | nil => simp [literal?, string?, StringKind.opening, char?, pointed?, integer?, integerDigits] at h
  | cons c cs =>
    have hlead := leadsLiteral_of_literal? h
    have hne {d : Char} (hquotes : d ∉ ['"', '\'']) (hpart : Text.isIdentifierPart d = false) : c ≠ d := by
      rintro rfl
      rcases hlead with hc | hc
      · exact hquotes hc
      · rw [hpart] at hc
        cases hc
    have hdelimiters : ∀ d ∈ Delimiter.all, c ≠ d.opening ∧ c ≠ d.closing := by
      have hall : ∀ d ∈ Delimiter.all, d.opening ∉ ['"', '\''] ∧ Text.isIdentifierPart d.opening = false
          ∧ d.closing ∉ ['"', '\''] ∧ Text.isIdentifierPart d.closing = false := by
        decide
      intro d hd
      obtain ⟨hopening, hopening', hclosing, hclosing'⟩ := hall d hd
      exact ⟨hne hopening hopening', hne hclosing hclosing'⟩
    refine ⟨⟨?_, ?_⟩, ?_⟩
    · intro d hd
      obtain rfl := Option.some.inj hd
      rw [← Bool.not_eq_true]
      intro hgap
      rcases hlead with hc | hc
      · have hquotes : ∀ d ∈ ['"', '\''], isGap d = false := List.forall_iff_forall_mem.1 (by decide)
        rw [hquotes c hc] at hgap
        cases hgap
      · rw [isIdentifierPart_of_isGap hgap] at hc
        cases hc
    · rw [Option.eq_none_iff_forall_ne_some]
      intro r hr
      exact hne (by decide) (by decide) (eq_of_comment? hr)
    · obtain ⟨hopening, hclosing⟩ := ofDelimiter?_eq_none hdelimiters
      simp only [token?, hopening, hclosing, h]

end Source
end Loadable
