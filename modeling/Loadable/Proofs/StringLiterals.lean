/-
# Strings as they are spelled

The spellings of a text as a string literal (`Source.Spelled`), said without reading them: characters and escapes
between quotes (`Source.Cooked`), where a line may be broken and goes on behind the blanks of the next one; or the
text itself between quotes with hash marks (`Source.RawText`), so many that none of its own quotes has as many
behind it.  A word may stand on the literal.

A spelling is read as the text that it denotes, up to where it stops (`Source.Spelled.literal?_append`).
-/

import Loadable.Proofs.AddressLiterals
import Loadable.Proofs.Words

namespace Loadable
namespace Source

open Address (Digits Numeral isDigit digit? digitsValue)

variable {c : Char} {cs ds rest : List Char}

/-! ### Escapes -/

theorem hexValue?_eq (c : Char) : hexValue? c = digit? c := by
  have hplaces : 'a'.toNat = 97 ∧ 'A'.toNat = 65 := by decide
  unfold hexValue? digit?
  by_cases hsmall : 'a' ≤ c ∧ c ≤ 'f'
  · have hle : 97 ≤ c.toNat := hsmall.1
    rw [if_pos hsmall, if_pos hsmall, show c.toNat - 'a'.toNat + 10 = c.toNat - 87 by omega]
    rfl
  · by_cases hlarge : 'A' ≤ c ∧ c ≤ 'F'
    · have hle : 65 ≤ c.toNat := hlarge.1
      rw [if_neg hsmall, if_neg hsmall, if_pos hlarge, if_pos hlarge,
        show c.toNat - 'A'.toNat + 10 = c.toNat - 55 by omega]
      rfl
    · rw [if_neg hsmall, if_neg hsmall, if_neg hlarge, if_neg hlarge]
      rfl

/-- What stands behind the backslash of an escape, and the character that it denotes: a letter, two digits of an
ASCII character, or up to six digits in braces, where underscores may follow the first one. -/
inductive Escape : List Char → Char → Prop
  | newline : Escape ['n'] '\n'
  | carriageReturn : Escape ['r'] '\r'
  | tab : Escape ['t'] '\t'
  | backslash : Escape ['\\'] '\\'
  | zero : Escape ['0'] '\x00'
  | quote : Escape ['\''] '\''
  | doubleQuote : Escape ['"'] '"'
  | pair {a b c : Char} : Numeral 16 [a, b] c.toNat → c.toNat < 0x80 → Escape ['x', a, b] c
  | scalar {d : Char} {ds : List Char} {c : Char} : d ≠ '_' → Numeral 16 (d :: ds.filter (· ≠ '_')) c.toNat →
    (d :: ds.filter (· ≠ '_')).length ≤ 6 → Escape ('u' :: '\x7b' :: d :: (ds ++ ['\x7d'])) c

theorem isScalar_toNat (c : Char) : isScalar c.toNat = true := by
  have hvalid : c.toNat < 0xD800 ∨ 0xDFFF < c.toNat ∧ c.toNat < 0x110000 := c.valid
  simp only [isScalar, Bool.or_eq_true, Bool.and_eq_true, decide_eq_true_eq]
  omega

/-- Digits are read up to the closing brace, and underscores passed over. -/
theorem scalarDigits_append {value count n : ℕ} (hcount : count ≠ 0)
    (hall : ∀ c ∈ ds.filter (· ≠ '_'), isDigit 16 c = true)
    (hmost : count + (ds.filter (· ≠ '_')).length ≤ 6)
    (hvalue : (ds.filter (· ≠ '_')).foldl (fun n c => 16 * n + (digit? c).getD 0) value = n)
    (hscalar : isScalar n = true) :
    scalarDigits value count (ds ++ '\x7d' :: rest) = some (Char.ofNat n, rest) := by
  induction ds generalizing value count with
  | nil =>
    have hbrace : hexValue? '\x7d' = none := by decide
    obtain rfl : value = n := hvalue
    rw [List.nil_append, scalarDigits, hbrace]
    dsimp only
    rw [if_neg hcount, if_neg (by decide), if_pos ⟨rfl, hscalar⟩]
  | cons d ds ih =>
    by_cases hd : d = '_'
    · subst hd
      have hunder : hexValue? '_' = none := by decide
      rw [List.filter_cons_of_neg (by decide)] at hall hmost hvalue
      rw [List.cons_append, scalarDigits, hunder]
      dsimp only
      rw [if_neg hcount, if_pos rfl]
      exact ih hcount hall hmost hvalue
    · rw [List.filter_cons_of_pos (by simpa using hd)] at hall hmost hvalue
      obtain ⟨hdigit, hall⟩ := List.forall_mem_cons.1 hall
      obtain ⟨x, -, hx⟩ := Address.isDigit_eq_true_iff.1 hdigit
      rw [List.length_cons] at hmost
      rw [List.foldl_cons, hx] at hvalue
      rw [List.cons_append, scalarDigits, hexValue?_eq, hx]
      dsimp only
      rw [if_pos (by omega)]
      exact ih (Nat.succ_ne_zero count) hall (by omega) (by rw [Nat.mul_comm value]; exact hvalue)

/-- **An escape** is read as the character that it denotes. -/
theorem Escape.escape?_append {e : List Char} (h : Escape e c) (rest : List Char) :
    escape? .text (e ++ rest) = some (c, rest) := by
  cases h with
  | newline => rfl
  | carriageReturn => rfl
  | tab => rfl
  | backslash => rfl
  | zero => rfl
  | quote => rfl
  | doubleQuote => rfl
  | @pair a b c hpair hascii =>
    have hdigits : Digits 16 ([] ++ [a] ++ [b]) c.toNat := hpair.digits (by decide) (by decide)
    obtain ⟨m, hfirst, y, -, hy, hn⟩ := Address.digits_snoc_iff.1 hdigits
    obtain ⟨k, hnone, x, -, hx, rfl⟩ := Address.digits_snoc_iff.1 hfirst
    obtain rfl : 0 = k := hnone.value
    have hvalue : x * 16 + y = c.toNat := by omega
    change (pairEscape? .text a b).map (·, rest) = _
    rw [pairEscape?, hexValue?_eq, hexValue?_eq, hx, hy]
    dsimp only
    rw [if_pos (by omega), hvalue, Char.ofNat_toNat]
    rfl
  | @scalar d ds c hd hnumeral hmost =>
    have hdigits := hnumeral.digits (by decide) (by decide)
    obtain ⟨hdigit, hall⟩ := List.forall_mem_cons.1 hdigits.all
    obtain ⟨x, -, hx⟩ := Address.isDigit_eq_true_iff.1 hdigit
    rw [List.length_cons] at hmost
    have hvalue : (ds.filter (· ≠ '_')).foldl (fun n c => 16 * n + (digit? c).getD 0) x = c.toNat := by
      have hvalue := hdigits.value
      rw [digitsValue, List.foldl_cons, hx, Nat.mul_zero, Nat.zero_add] at hvalue
      exact hvalue
    have hread : scalarDigits 0 0 (d :: (ds ++ '\x7d' :: rest)) = some (c, rest) := by
      rw [scalarDigits, hexValue?_eq, hx]
      dsimp only
      rw [if_pos (by decide), Nat.zero_mul, Nat.zero_add,
        scalarDigits_append Nat.one_ne_zero hall (by omega) hvalue (isScalar_toNat c), Char.ofNat_toNat]
    have htext : 'u' :: '\x7b' :: d :: (ds ++ ['\x7d']) ++ rest
        = 'u' :: '\x7b' :: d :: (ds ++ '\x7d' :: rest) := by
      simp
    rw [htext, escape?, if_neg (by decide), hread]
    rfl

/-- An escape does not break the line. -/
theorem Escape.exists_cons {e : List Char} (h : Escape e c) : ∃ d ds, e = d :: ds ∧ d ≠ '\n' ∧ d ≠ '\r' := by
  cases h <;> exact ⟨_, _, rfl, by decide, by decide⟩

/-! ### Between quotes -/

/-- What does not count at the start of the line behind a broken one: blanks and the ends of empty lines. -/
inductive Indent : List Char → Prop
  | nil : Indent []
  | blank {c : Char} {cs : List Char} : isIndent c = true → Indent cs → Indent (c :: cs)
  | lineEnd {cs : List Char} : Indent cs → Indent ('\r' :: '\n' :: cs)

/-- What counts again. -/
def Unindented (cs : List Char) : Prop := ∀ c ∈ cs.head?, isIndent c = false ∧ c ≠ '\r'

/-- What stands between the quotes of a string, and the characters that it denotes.  A carriage return may stand
only in the end of a line, which denotes the same as one without; at a broken line nothing is denoted. -/
inductive Cooked : List Char → List Char → Prop
  | nil : Cooked [] []
  | char {c : Char} {cs v : List Char} : c ≠ '"' → c ≠ '\\' → c ≠ '\r' → Cooked cs v → Cooked (c :: cs) (c :: v)
  | lineEnd {cs v : List Char} : Cooked cs v → Cooked ('\r' :: '\n' :: cs) ('\n' :: v)
  | escape {e : List Char} {c : Char} {cs v : List Char} : Escape e c → Cooked cs v →
    Cooked ('\\' :: (e ++ cs)) (c :: v)
  | broken {newline indent cs v : List Char} : newline = ['\n'] ∨ newline = ['\r', '\n'] → Indent indent →
    Unindented cs → Cooked cs v → Cooked ('\\' :: (newline ++ (indent ++ cs))) v

/-- A character that means nothing else between quotes. -/
theorem cooked_cons {k : StringKind} {skipping : Bool} (hquote : c ≠ '"') (hslash : c ≠ '\\') (hreturn : c ≠ '\r')
    (cs : List Char) : cooked k skipping (c :: cs)
      = if k.allows c then
          if skipping && isIndent c then cooked k true cs
          else (cooked k false cs).map fun (v, r) => (c :: v, r)
        else none := by
  rw [cooked.eq_7]
  · cases hallows : k.allows c <;> simp [hreturn]
  all_goals simp [hquote, hslash, hreturn]

theorem cooked_indent {indent : List Char} (h : Indent indent) (rest : List Char) :
    cooked .text true (indent ++ rest) = cooked .text true rest := by
  induction h with
  | nil => rfl
  | @blank c cs hc _ ih =>
    have hne : c ≠ '"' ∧ c ≠ '\\' ∧ c ≠ '\r' := by
      refine ⟨?_, ?_, ?_⟩ <;> rintro rfl <;> exact absurd hc (by decide)
    rw [List.cons_append, cooked_cons hne.1 hne.2.1 hne.2.2, ih, hc]
    rfl
  | lineEnd _ ih =>
    rw [List.cons_append, List.cons_append, cooked, if_pos rfl, ih]

/-- **What stands between quotes** is read as the characters that it denotes, up to the closing quote. -/
theorem Cooked.cooked_append {v : List Char} (h : Cooked cs v) (skipping : Bool)
    (hskipping : skipping = true → Unindented cs) (rest : List Char) :
    cooked .text skipping (cs ++ '"' :: rest) = some (v, rest) := by
  induction h generalizing skipping with
  | nil => rw [List.nil_append, cooked]
  | @char c cs v hquote hslash hreturn _ ih =>
    have hstays : (skipping && isIndent c) = false := by
      cases skipping with
      | false => rfl
      | true => exact (hskipping rfl c rfl).1
    rw [List.cons_append, cooked_cons hquote hslash hreturn, hstays, ih false (absurd · Bool.false_ne_true)]
    rfl
  | lineEnd _ ih =>
    have hstays : ¬ skipping = true := fun h => (hskipping h '\r' rfl).2 rfl
    rw [List.cons_append, List.cons_append, cooked, if_neg hstays, ih false (absurd · Bool.false_ne_true)]
    rfl
  | @escape e c cs v he _ ih =>
    have hread := he.escape?_append (cs ++ '"' :: rest)
    obtain ⟨d, ds, rfl, hnewline, hreturn⟩ := he.exists_cons
    rw [List.cons_append, List.append_assoc, List.cons_append, cooked.eq_5]
    · rw [List.cons_append] at hread
      split
      · simp_all
      · rename_i hsome
        rw [hread] at hsome
        cases hsome
        rw [ih false (absurd · Bool.false_ne_true)]
        rfl
    all_goals simp [hnewline, hreturn]
  | broken hnewline hindent hcs _ ih =>
    have hread := ih true fun _ => hcs
    rcases hnewline with rfl | rfl
    · rw [List.cons_append, List.append_assoc, List.append_assoc, List.cons_append, List.nil_append, cooked,
        cooked_indent hindent, hread]
    · rw [List.cons_append, List.append_assoc, List.append_assoc, List.cons_append, List.cons_append,
        List.nil_append, cooked, cooked_indent hindent, hread]

/-! ### Raw strings -/

/-- The hash marks of a raw string. -/
abbrev hashMarks (hashes : ℕ) : List Char := List.replicate hashes '#'

/-- What may stand between the quotes of a raw string with hash marks: no quote with as many marks behind it, and
no carriage return. -/
structure RawText (hashes : ℕ) (v : List Char) : Prop where
  quotes : ¬ '"' :: hashMarks hashes <:+: v
  returns : '\r' ∉ v

theorem rawBody_cons {k : StringKind} {hashes : ℕ} (hquote : c ≠ '"') (hreturn : c ≠ '\r') (cs : List Char) :
    rawBody k hashes (c :: cs)
      = if k.allows c then (rawBody k hashes cs).map fun (v, r) => (c :: v, r) else none := by
  rw [rawBody.eq_4]
  · cases hallows : k.allows c <;> simp [hreturn]
  all_goals simp [hquote, hreturn]

/-- A quote with the marks behind it ends the string. -/
theorem rawBody_close (k : StringKind) (hashes : ℕ) (rest : List Char) :
    rawBody k hashes ('"' :: (hashMarks hashes ++ rest)) = some ([], rest) := by
  rw [rawBody, if_pos (List.take_left' List.length_replicate), List.drop_left' List.length_replicate]

/-- Another quote does not. -/
theorem rawBody_quote {k : StringKind} {hashes : ℕ} (h : ¬ hashMarks hashes <+: cs) :
    rawBody k hashes ('"' :: cs) = (rawBody k hashes cs).map fun (v, r) => ('"' :: v, r) := by
  rw [List.prefix_iff_eq_take, List.length_replicate, eq_comm] at h
  rw [rawBody, if_neg h]

/-- Whether the marks stand at the front of a text is seen before the first quote. -/
theorem hashMarks_before_quote {hashes : ℕ} (h : hashMarks hashes <+: cs ++ '"' :: rest) :
    hashMarks hashes <+: cs := by
  rcases List.prefix_or_prefix_of_prefix h (List.prefix_append cs _) with h' | ⟨t, ht⟩
  · exact h'
  · cases t with
    | nil => exact ⟨[], by rw [← ht, List.append_nil, List.append_nil]⟩
    | cons d t =>
      rw [← ht] at h
      obtain ⟨rfl, -⟩ := List.cons_prefix_cons.1 ((List.prefix_append_right_inj cs).1 h)
      have hmem : '"' ∈ hashMarks hashes := ht ▸ List.mem_append_right cs List.mem_cons_self
      exact absurd (List.eq_of_mem_replicate hmem) (by decide)

/-- A raw string behind its letter has hash marks and a quote. -/
theorem raw_eq_some_iff {k : StringKind} {r : List Char × List Char} : raw k cs = some r
    ↔ ∃ hashes ds, hashes ≤ 255 ∧ cs = hashMarks hashes ++ '"' :: ds ∧ rawBody k hashes ds = some r := by
  constructor
  · intro h
    have hmarks : cs.takeWhile (· = '#') = hashMarks (cs.takeWhile (· = '#')).length :=
      List.eq_replicate_of_mem fun c hc => by simpa using List.mem_takeWhile_imp hc
    have hfront : cs.takeWhile (· = '#') = cs.take (cs.takeWhile (· = '#')).length :=
      List.prefix_iff_eq_take.1 (List.takeWhile_prefix _)
    unfold raw at h
    dsimp only at h
    split at h
    case h_1 ds hds =>
      obtain ⟨hhashes, h⟩ := Option.ite_none_right_eq_some.1 h
      refine ⟨_, ds, hhashes, ?_, h⟩
      rw [← hmarks, ← hds]
      exact (List.take_append_drop _ cs).symm.trans (congrArg (· ++ _) hfront.symm)
    case h_2 => cases h
  · rintro ⟨hashes, ds, hhashes, rfl, h⟩
    have hmarks : ∀ c ∈ hashMarks hashes, decide (c = '#') = true :=
      fun c hc => decide_eq_true (List.eq_of_mem_replicate hc)
    unfold raw
    rw [List.takeWhile_append_of_pos hmarks, List.takeWhile_cons_of_neg (by decide), List.append_nil,
      List.length_replicate]
    dsimp only
    rw [List.drop_left' List.length_replicate]
    exact (if_pos hhashes).trans h

/-- **What stands between the quotes of a raw string** is read as it is. -/
theorem RawText.rawBody_append {hashes : ℕ} {v : List Char} (h : RawText hashes v) (rest : List Char) :
    rawBody .text hashes (v ++ '"' :: (hashMarks hashes ++ rest)) = some (v, rest) := by
  induction v with
  | nil => exact rawBody_close .text hashes rest
  | cons c v ih =>
    obtain ⟨hreturn, hreturns⟩ := not_or.1 (List.mem_cons.not.1 h.returns)
    have ih := ih ⟨fun hinfix => h.quotes (List.infix_cons hinfix), hreturns⟩
    rw [List.cons_append]
    by_cases hc : c = '"'
    · subst hc
      have hopen : ¬ hashMarks hashes <+: v := fun hprefix =>
        h.quotes (List.cons_prefix_cons.2 ⟨rfl, hprefix⟩).isInfix
      rw [rawBody_quote fun hprefix => hopen (hashMarks_before_quote hprefix), ih]
      rfl
    · rw [rawBody_cons hc (Ne.symm hreturn), ih]
      rfl

/-- All characters can stand between quotes, some of them as escapes. -/
theorem exists_cooked (v : List Char) : ∃ cs, Cooked cs v := by
  induction v with
  | nil => exact ⟨[], .nil⟩
  | cons c v ih =>
    obtain ⟨cs, hcs⟩ := ih
    by_cases hquote : c = '"'
    · subst hquote
      exact ⟨_, .escape .doubleQuote hcs⟩
    · by_cases hslash : c = '\\'
      · subst hslash
        exact ⟨_, .escape .backslash hcs⟩
      · by_cases hreturn : c = '\r'
        · subst hreturn
          exact ⟨_, .escape .carriageReturn hcs⟩
        · exact ⟨_, .char hquote hslash hreturn hcs⟩

/-! ### The whole literal -/

/-- What may stand on a literal: nothing, or a word. -/
def Suffix (cs : List Char) : Prop :=
  ∀ c ∈ cs.head?, Text.isIdentifierStart c = true ∧ ∀ d ∈ cs, Text.isIdentifierPart d = true

theorem suffix_nil : Suffix [] := nofun

/-- The spellings of a text as a string literal. -/
inductive Spelled : List Char → String → Prop
  | cooked {cs v suffix : List Char} : Cooked cs v → Suffix suffix →
    Spelled ('"' :: (cs ++ '"' :: suffix)) (String.ofList v)
  | raw {hashes : ℕ} {v suffix : List Char} : hashes ≤ 255 → RawText hashes v → Suffix suffix →
    Spelled ('r' :: (hashMarks hashes ++ '"' :: (v ++ '"' :: (hashMarks hashes ++ suffix)))) (String.ofList v)

/-- Every text has a spelling. -/
theorem exists_spelled (s : String) : ∃ cs, Spelled cs s := by
  obtain ⟨cs, hcs⟩ := exists_cooked s.toList
  have hspelled : Spelled _ (String.ofList s.toList) := .cooked hcs suffix_nil
  rw [String.ofList_toList] at hspelled
  exact ⟨_, hspelled⟩

theorem Suffix.afterWord_append {suffix : List Char} (h : Suffix suffix) (hrest : Stops rest) :
    afterWord (suffix ++ rest) = rest := by
  cases suffix with
  | nil =>
    cases rest with
    | nil => rfl
    | cons d ds =>
      rw [List.nil_append, afterWord, if_neg]
      intro hd
      have hpart := isIdentifierPart_of_stops (hrest d rfl)
      rw [isIdentifierPart_of_isIdentifierStart hd] at hpart
      cases hpart
  | cons c suffix =>
    obtain ⟨hc, hall⟩ := h c rfl
    have hplain := plainWord?_append hc (fun d hd => hall d (List.mem_cons_of_mem _ hd)) hrest
    rw [List.cons_append, plainWord?, if_pos hc] at hplain
    rw [List.cons_append, afterWord, if_pos hc]
    exact (Prod.mk.inj (Option.some.inj hplain)).2

theorem upTo_append (kind : LiteralKind) (cs rest : List Char) :
    Literal.upTo kind (cs ++ rest) rest = (⟨String.ofList cs, kind⟩, rest) := by
  rw [Literal.upTo, List.length_append, Nat.add_sub_cancel, List.take_left]

/-- **A spelling of a text** is read as the text, up to where it stops. -/
theorem Spelled.literal?_append {s : String} (h : Spelled cs s) (hrest : Stops rest) :
    literal? (cs ++ rest) = some (⟨String.ofList cs, .string s⟩, rest) := by
  have read {v suffix : List Char} (hsuffix : Suffix suffix)
      (hstring : string? .text (cs ++ rest) = some (v, suffix ++ rest)) :
      literal? (cs ++ rest) = some (⟨String.ofList cs, .string (String.ofList v)⟩, rest) := by
    rw [literal?, hstring]
    dsimp only
    rw [hsuffix.afterWord_append hrest, upTo_append]
  cases h with
  | cooked hcs hsuffix =>
    refine read hsuffix ?_
    rw [List.cons_append, List.append_assoc, List.cons_append]
    exact hcs.cooked_append false (absurd · Bool.false_ne_true) _
  | raw hhashes hv hsuffix =>
    refine read hsuffix ?_
    simp only [List.cons_append, List.append_assoc]
    exact raw_eq_some_iff.2 ⟨_, _, hhashes, rfl, hv.rawBody_append _⟩

end Source
end Loadable
