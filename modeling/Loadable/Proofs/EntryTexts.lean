/-
# Entries as they are written

A list of entries is a text (`Registration.ListText`): keys that are paths or the one keyword, each with an equals
sign and a literal behind it (`Source.IsLiteral`), and commas, with blanks and comments that document nothing
between any two of these.  Such a text is read as its tokens (`Registration.ListText.reads`), so what it gives is
what its entries give (`Registration.GivenNames.read_eq`).
-/

import Loadable.Proofs.EntryTokens
import Loadable.Proofs.LiteralTokens
import Loadable.Proofs.PlainNames

namespace Loadable
namespace Source

open Source.Parser (IsPart PartTokens KeyTokens pathOf IsValue)

variable {c : Char} {cs next behind rest w : List Char} {t : Token} {ts : List Token} {v : Option String}

/-! ### Marks and literals -/

theorem stops_cons (hc : c ∈ stopMarks) (rest : List Char) : Stops (c :: rest) :=
  fun _ hd => .inr (Option.some.inj hd ▸ hc)

/-- The marks of a list are tokens. -/
theorem reads_mark (c : Char) (hc : c ∈ ['=', ',', ':']) (hrest : Reads rest ts) :
    Reads (c :: rest) (.mark c (startsMark rest) :: ts) := by
  have hmarks : ∀ c ∈ ['=', ',', ':'], c ≠ '/' ∧ c ≠ '\'' ∧ isGap c = false ∧ c ∉ ['"', '\'']
      ∧ Text.isIdentifierPart c = false ∧ marks.contains c = true
      ∧ Delimiter.ofOpening? c = none ∧ Delimiter.ofClosing? c = none :=
    List.forall_iff_forall_mem.1 (by decide)
  obtain ⟨hslash, hquote, hgap, hquotes, hpart, hmark, hopening, hclosing⟩ := hmarks c hc
  have hliteral : literal? (c :: rest) = none := by
    rw [Option.eq_none_iff_forall_ne_some]
    intro r hr
    rcases leadsLiteral_of_literal? hr with hlead | hlead
    · exact hquotes hlead
    · rw [hpart] at hlead
      cases hlead
  have hsolid : Solid (c :: rest) := by
    refine ⟨fun d hd => Option.some.inj hd ▸ hgap, ?_⟩
    rw [Option.eq_none_iff_forall_ne_some]
    exact fun r hr => hslash (eq_of_comment? hr)
  have hstarts : startsMark (c :: rest) = true := by
    rw [startsMark.eq_3, hmark]
    all_goals simp [hslash]
  refine reads_cons hsolid ?_ (Nat.lt_succ_self _) hrest
  simp only [token?, hopening, hclosing, hliteral, hstarts, if_true, if_neg hquote]

/-- A plain name is a token. -/
theorem reads_word {s : String} (hs : Registration.isPlain s = true) (hstops : Stops rest)
    (hrest : Reads rest ts) : Reads (s.toList ++ rest) (.word s :: ts) := by
  have hread := (Registration.word_of_isPlain hs).reads hstops hrest
  rwa [String.ofList_toList] at hread

/-- A literal as it is written, with the text that it denotes if it is a string. -/
inductive IsLiteral : List Char → Option String → Prop
  | string {cs : List Char} {s : String} : Spelled cs s → IsLiteral cs (some s)
  | truth {cs : List Char} : cs = "true".toList ∨ cs = "false".toList → IsLiteral cs none
  /-- What reads as a literal of another kind, with nothing behind it. -/
  | other {cs : List Char} {l : Literal} : literal? cs = some (l, []) → (∀ s, l.kind ≠ .string s) →
    IsLiteral cs none

theorem IsLiteral.reads (h : IsLiteral cs v) (hstops : Stops rest) (hrest : Reads rest ts) :
    ∃ t, IsValue t v ∧ Reads (cs ++ rest) (t :: ts) := by
  have literal {l : Literal} (hcs : cs ≠ []) (hl : literal? (cs ++ rest) = some (l, rest)) :
      Reads (cs ++ rest) (.literal l :: ts) := by
    have hless : rest.length < (cs ++ rest).length := by
      have := List.length_pos_iff.2 hcs
      rw [List.length_append]
      omega
    obtain ⟨hsolid, htoken⟩ := token?_of_literal? hl
    exact reads_cons hsolid htoken hless hrest
  cases h with
  | @string s h =>
    have hcs : cs ≠ [] := by cases h <;> exact List.cons_ne_nil _ _
    exact ⟨_, .string _ s, literal hcs (h.literal?_append hstops)⟩
  | truth h =>
    rcases h with rfl | rfl
    · exact ⟨_, .isTrue, reads_word (by decide) hstops hrest⟩
    · exact ⟨_, .isFalse, reads_word (by decide) hstops hrest⟩
  | @other l h hkind =>
    have hcs : cs ≠ [] := by
      rintro rfl
      cases h
    have hread := literal hcs (literal?_append h hstops)
    obtain ⟨spelling, kind⟩ := l
    cases kind with
    | string s => exact absurd rfl (hkind s)
    | number => exact ⟨_, .number _, hread⟩
    | other => exact ⟨_, .other _, hread⟩

/-! ### Keys -/

/-- The parts of a path with two colons between any two, and the text behind the last. -/
inductive PartTexts : List Char → List String → List Char → Prop
  | last {w behind : List Char} : Word w → IsPart (String.ofList w) →
    PartTexts (w ++ behind) [String.ofList w] behind
  | cons {w mid next cs behind : List Char} {names : List String} : Word w → IsPart (String.ofList w) →
    Skips mid (':' :: ':' :: next) → Skips next cs → PartTexts cs names behind →
    PartTexts (w ++ mid) (String.ofList w :: names) behind

/-- A key, and the text behind it. -/
inductive KeyText : List Char → Path → List Char → Prop
  | keyword {behind : List Char} : KeyText ("unsafe".toList ++ behind) (pathOf false ["unsafe"]) behind
  | relative {cs behind : List Char} {names : List String} : PartTexts cs names behind →
    KeyText cs (pathOf false names) behind
  | rooted {next cs behind : List Char} {names : List String} : Skips next cs → PartTexts cs names behind →
    KeyText (':' :: ':' :: next) (pathOf true names) behind

theorem PartTexts.reads {names : List String} (h : PartTexts cs names behind) (hstops : Stops behind)
    (hbehind : Reads behind ts) :
    ∃ pre ps, PartTokens pre ps ∧ ps.map Prod.fst = names ∧ Reads cs (pre ++ ts) := by
  induction h with
  | last hw hpart => exact ⟨_, _, .last hpart, rfl, hw.reads hstops hbehind⟩
  | @cons w mid next cs behind names hw hpart hmid hnext _ ih =>
    obtain ⟨pre, ps, hpre, hnames, hread⟩ := ih hstops hbehind
    have hcolons := reads_mark ':' (by decide) (reads_mark ':' (by decide) (hnext.reads hread))
    refine ⟨_, _, .cons hpart hpre, by rw [List.map_cons, hnames],
      hw.reads (hmid.stops (stops_cons (by decide) _)) (hmid.reads hcolons)⟩

theorem KeyText.reads {key : Path} (h : KeyText cs key behind) (hstops : Stops behind)
    (hbehind : Reads behind ts) : ∃ pre, KeyTokens pre key ∧ Reads cs (pre ++ ts) := by
  cases h with
  | keyword => exact ⟨_, .keyword, reads_word (by decide) hstops hbehind⟩
  | relative h =>
    obtain ⟨pre, ps, hpre, rfl, hread⟩ := h.reads hstops hbehind
    exact ⟨pre, .relative hpre, hread⟩
  | rooted hnext h =>
    obtain ⟨pre, ps, hpre, rfl, hread⟩ := h.reads hstops hbehind
    have hcolons := reads_mark ':' (by decide) (reads_mark ':' (by decide) (hnext.reads hread))
    exact ⟨_, .rooted hpre, hcolons⟩

end Source

namespace Registration

open Source

variable {cs behind : List Char} {ts : List Token} {e : Entry} {es : List Entry}

/-- An entry, and the text behind it. -/
inductive EntryText : List Char → Entry → List Char → Prop
  | mk {cs behind next l rest : List Char} {key : Source.Path} {v : Option String} : KeyText cs key behind →
    Skips behind ('=' :: next) → Skips next (l ++ rest) → IsLiteral l v → EntryText cs ⟨key, v⟩ rest

/-- Entries with a comma between any two, and perhaps one behind the last. -/
inductive ListText : List Char → List Entry → Prop
  | nil {cs : List Char} : Skips cs [] → ListText cs []
  | last {cs cs' rest : List Char} {e : Entry} : Skips cs cs' → EntryText cs' e rest → Skips rest [] →
    ListText cs [e]
  | cons {cs cs' rest next : List Char} {e : Entry} {es : List Entry} : Skips cs cs' → EntryText cs' e rest →
    Skips rest (',' :: next) → ListText next es → ListText cs (e :: es)

/-- A list with one more entry in front, whose key is a plain name. -/
theorem ListText.cons_word {s : String} {l : List Char} {v : Option String} (h : ListText cs es)
    (hs : isPlain s = true) (hkeyword : isKeyword s = false) (hl : IsLiteral l v) :
    ListText (s.toList ++ '=' :: (l ++ ',' :: cs)) (⟨Source.Parser.pathOf false [s], v⟩ :: es) := by
  have hkey (behind : List Char) : Source.PartTexts (s.toList ++ behind) [s] behind := by
    have hlast : Source.PartTexts (s.toList ++ behind) [String.ofList s.toList] behind :=
      .last (word_of_isPlain hs) (.inl (by rwa [String.ofList_toList]))
    rwa [String.ofList_toList] at hlast
  exact .cons .refl (.mk (.relative (hkey _)) .refl .refl hl) .refl h

theorem EntryText.reads (h : EntryText cs e behind) (hstops : Stops behind) (hbehind : Reads behind ts) :
    ∃ pre, EntryTokens pre e ∧ Reads cs (pre ++ ts) := by
  cases h with
  | mk hkey hequals hnext hl =>
    obtain ⟨t, ht, hread⟩ := hl.reads hstops hbehind
    obtain ⟨pre, hpre, hread⟩ := hkey.reads (hequals.stops (stops_cons (by decide) _))
      (hequals.reads (reads_mark '=' (by decide) (hnext.reads hread)))
    exact ⟨_, .mk hpre ht, by simpa using hread⟩

/-- **A list of entries is read** as tokens of the entries. -/
theorem ListText.reads (h : ListText cs es) : ∃ ts, ListTokens ts es ∧ Reads cs ts := by
  induction h with
  | nil h => exact ⟨[], .nil, h.reads reads_nil⟩
  | last hcs he hrest =>
    obtain ⟨pre, hpre, hread⟩ := he.reads (hrest.stops stops_nil) (hrest.reads reads_nil)
    rw [List.append_nil] at hread
    exact ⟨pre, .last hpre, hcs.reads hread⟩
  | cons hcs he hrest _ ih =>
    obtain ⟨ts, hts, hread⟩ := ih
    obtain ⟨pre, hpre, hread⟩ := he.reads (hrest.stops (stops_cons (by decide) _))
      (hrest.reads (reads_mark ',' (by decide) hread))
    exact ⟨_, .cons hpre hts, hcs.reads hread⟩

/-- Whether a token opens or closes something. -/
def isDelimiter : Token → Bool
  | .opening _ => true
  | .closing _ => true
  | _ => false

theorem balanced_eq (h : ts.any isDelimiter = false) (openings : List Delimiter) :
    balanced openings ts = openings.isEmpty := by
  induction ts with
  | nil => rfl
  | cons t ts ih =>
    obtain ⟨ht, hts⟩ := Bool.or_eq_false_iff.1 h
    cases t with
    | opening d => cases ht
    | closing d => cases ht
    | word | lifetime | mark | literal => exact ih hts

theorem undelimited_parts {ps : List (String × Bool)} (h : Source.Parser.PartTokens ts ps) :
    ts.any isDelimiter = false := by
  induction h with
  | last => rfl
  | cons _ _ ih => exact ih

theorem undelimited_entry (h : EntryTokens ts e) : ts.any isDelimiter = false := by
  cases h with
  | @mk pre _ _ _ _ hkey hvalue =>
    have hpre : pre.any isDelimiter = false := by
      cases hkey with
      | keyword => rfl
      | relative h => exact undelimited_parts h
      | rooted h =>
        have hparts := undelimited_parts h
        exact hparts
    rw [List.any_append, hpre]
    cases hvalue <;> rfl

/-- Nothing is opened in a list of entries. -/
theorem undelimited_list (h : ListTokens ts es) : ts.any isDelimiter = false := by
  induction h with
  | nil => rfl
  | last h => exact undelimited_entry h
  | cons h _ ih =>
    rw [List.any_append, undelimited_entry h]
    exact ih

/-- **What a list of entries gives** is what its entries give. -/
theorem GivenNames.read_eq {s : String} (h : ListText (afterOrderMark s.toList) es) :
    read s = (ofEntries es).mapError .refused := by
  obtain ⟨ts, hts, hread⟩ := h.reads
  have htokens : tokens? s = some ts := by
    rw [tokens?, hread _ (Nat.le_refl _)]
    exact Option.filter_eq_some_iff.2 ⟨rfl, balanced_eq (undelimited_list hts) []⟩
  rw [read, htokens]
  dsimp only
  rw [ofTokens, listed_entries hts]

end Registration
end Loadable
