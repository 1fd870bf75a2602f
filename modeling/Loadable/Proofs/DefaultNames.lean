/-
# What a default name keeps

A default name has all letters and digits of the type's name, in small letters and in their order
(`Registration.flatten_words`), and underscores only between two of them.  A word ends at underscores or before a
capital letter (`Registration.exists_ends`), so where there is an underscore before a digit, or between a digit and
a small letter, there was one in the type's name.  In a text without capital letters the words are what stands
between underscores (`Registration.words_intercalate`), and so a default name is its own.
-/

import Loadable.Proofs.PlainNames
import Loadable.Registration.DefaultName
import Mathlib.Data.List.Basic

namespace Loadable

namespace Text

variable {c : Char} {cs : List Char}

/-- In ASCII each character has a small form of its own. -/
theorem lower_of_ascii (h : ∀ c ∈ cs, c.toNat < 0x80) : lower cs = cs.map Char.toLower := by
  have hascii : ∀ n < 0x80, lowerChar (Char.ofNat n) = [(Char.ofNat n).toLower] := by decide +kernel
  have hall : ∀ before, lowerAfter before cs = cs.map Char.toLower := by
    induction cs with
    | nil => exact fun _ => rfl
    | cons c cs ih =>
      intro before
      obtain ⟨hc, hcs⟩ := List.forall_mem_cons.1 h
      have hsigma : c ≠ 'Σ' := by
        rintro rfl
        exact absurd hc (by decide)
      rw [lowerAfter, if_neg hsigma, ih hcs, of_forall_ofNat (P := fun c => lowerChar c = [c.toLower]) hascii hc]
      rfl
  exact hall []

/-- The small form of a plain character. -/
theorem toLower_of_isPlainPart (h : isPlainPart c = true) :
    isPlainPart c.toLower = true ∧ isUpper c.toLower = false ∧ c.toLower.toLower = c.toLower
      ∧ (c.toLower = '_' ↔ c = '_') := by
  have hascii : ∀ n < 0x80, isPlainPart (Char.ofNat n) = true →
      isPlainPart (Char.ofNat n).toLower = true ∧ isUpper (Char.ofNat n).toLower = false
        ∧ (Char.ofNat n).toLower.toLower = (Char.ofNat n).toLower
        ∧ ((Char.ofNat n).toLower = '_' ↔ Char.ofNat n = '_') := by decide +kernel
  exact of_forall_ofNat (P := fun c => isPlainPart c = true → isPlainPart c.toLower = true
    ∧ isUpper c.toLower = false ∧ c.toLower.toLower = c.toLower ∧ (c.toLower = '_' ↔ c = '_')) hascii
    (toNat_of_isPlainPart h).2 h

/-- A capital letter is no digit and no small letter. -/
theorem not_of_isUpper (h : isPlainPart c = true) (hc : isUpper c = true) :
    c.isDigit = false ∧ isLower c = false := by
  have hascii : ∀ n < 0x80, isUpper (Char.ofNat n) = true →
      (Char.ofNat n).isDigit = false ∧ isLower (Char.ofNat n) = false := by decide +kernel
  exact of_forall_ofNat (P := fun c => isUpper c = true → c.isDigit = false ∧ isLower c = false) hascii
    (toNat_of_isPlainPart h).2 hc

end Text

namespace Registration

open Text (isPlainPart isUpper)

variable {c : Char} {cs : List Char} {ws : List (List Char)}

/-- The letters and digits of a name. -/
def bare (cs : List Char) : List Char := cs.filter (· ≠ '_')

theorem bare_append (p q : List Char) : bare (p ++ q) = bare p ++ bare q := List.filter_append ..

theorem bare_cons (hc : c ≠ '_') (cs : List Char) : bare (c :: cs) = c :: bare cs :=
  List.filter_cons_of_pos (decide_eq_true hc)

theorem bare_eq_nil_iff : bare cs = [] ↔ ∀ c ∈ cs, c = '_' := by
  simp [bare, List.filter_eq_nil_iff]

/-- Of plain characters just the underscore stands between words. -/
theorem isSeparator_of_isPlainPart (h : isPlainPart c = true) : isSeparator c = decide (c = '_') := by
  have hlow := (Text.toNat_of_isPlainPart h).1
  have hdash : c ≠ '-' := by
    rintro rfl
    exact absurd hlow (by decide)
  have hblank : c ≠ ' ' := by
    rintro rfl
    exact absurd hlow (by decide)
  simp [isSeparator, hdash, hblank]

theorem filter_eq_bare (h : cs.all isPlainPart = true) : cs.filter (!isSeparator ·) = bare cs :=
  List.filter_congr fun c hc => by
    rw [isSeparator_of_isPlainPart (List.all_eq_true.1 h c hc), decide_not]

/-! ### Words -/

/-- The words of a text, with nothing between two separators. -/
def pieces (before : Option Char) (cs : List Char) : List (List Char) :=
  (restOfWord before cs).1 :: (restOfWord before cs).2

theorem words_eq (s : List Char) : words s = (pieces none s).filter (!·.isEmpty) := rfl

/-- A separator belongs to no word; any other character begins one or goes on with it. -/
theorem pieces_cons (before : Option Char) (c : Char) (cs : List Char) :
    pieces before (c :: cs)
      = if isSeparator c then [] :: pieces (some c) cs
        else if before.any (endsBefore · c cs) then [] :: (pieces (some c) cs).modifyHead (c :: ·)
        else (pieces (some c) cs).modifyHead (c :: ·) := by
  rw [pieces, restOfWord]
  dsimp only
  split
  · rfl
  · split <;> rfl

theorem flatten_pieces (before : Option Char) (cs : List Char) :
    (pieces before cs).flatten = cs.filter (!isSeparator ·) := by
  induction cs generalizing before with
  | nil => rfl
  | cons c cs ih =>
    have hword : ((pieces (some c) cs).modifyHead (c :: ·)).flatten = c :: cs.filter (!isSeparator ·) := by
      rw [← ih (some c)]
      rfl
    rw [pieces_cons, List.filter_cons]
    cases isSeparator c with
    | true => exact ih (some c)
    | false =>
      rw [if_neg Bool.false_ne_true, Bool.not_false, if_pos rfl]
      split
      · exact hword
      · exact hword

/-- **Nothing is lost:** the words are made of all characters that are no separators. -/
theorem flatten_words (s : List Char) : (words s).flatten = s.filter (!isSeparator ·) := by
  rw [words_eq, List.flatten_filter_not_isEmpty, flatten_pieces]

/-- Some words of a text end where others go on: at a separator or before a capital letter. -/
structure Ends (p q : List Char) (fs gs : List (List Char)) : Prop where
  before : p.filter (!isSeparator ·) = fs.flatten
  behind : q.filter (!isSeparator ·) = gs.flatten
  at_head : ∃ c q', q = c :: q' ∧ (isSeparator c = true ∨ isUpper c = true)

variable {p q : List Char} {fs gs : List (List Char)} {w : List Char}

theorem Ends.separator (h : Ends p q fs gs) (hc : isSeparator c = true) : Ends (c :: p) q ([] :: fs) gs where
  before := by
    rw [List.filter_cons_of_neg (by simp [hc]), h.before]
    rfl
  behind := h.behind
  at_head := h.at_head

theorem Ends.cons (h : Ends p q (w :: fs) gs) (hc : isSeparator c = false) :
    Ends (c :: p) q ((c :: w) :: fs) gs where
  before := by
    rw [List.filter_cons_of_pos (by simp [hc]), h.before]
    rfl
  behind := h.behind
  at_head := h.at_head

/-- **A word ends** at a separator or before a capital letter, by induction on the text. -/
theorem exists_ends_pieces {before : Option Char} (h : pieces before cs = fs ++ gs) (hfs : fs ≠ [])
    (hgs : gs ≠ []) : ∃ p q, cs = p ++ q ∧ Ends p q fs gs := by
  obtain ⟨f, fs, rfl⟩ := List.exists_cons_of_ne_nil hfs
  induction cs generalizing before f fs with
  | nil => exact absurd (List.append_eq_nil_iff.1 (List.cons.inj h).2.symm).2 hgs
  | cons c cs ih =>
    have hall := flatten_pieces (some c) cs
    obtain ⟨w, ws, hws⟩ : ∃ w ws, pieces (some c) cs = w :: ws := ⟨_, _, rfl⟩
    -- a later end is one of the rest of the text
    have hlater : ∀ fs', ws = fs' ++ gs → ∃ p q, cs = p ++ q ∧ Ends p q (w :: fs') gs := fun fs' hfs' =>
      @ih (some c) w fs' (by rw [hws, hfs', List.cons_append]) (List.cons_ne_nil _ _)
    rw [pieces_cons, hws] at h
    rw [hws] at hall
    split at h
    case isTrue hc =>
      obtain ⟨rfl, hrest⟩ := List.cons.inj h
      obtain ⟨rfl, rfl⟩ | ⟨fs', rfl, hfs'⟩ := List.cons_eq_append_iff.1 hrest
      · refine ⟨[], c :: cs, rfl, rfl, ?_, c, cs, rfl, .inl hc⟩
        rw [List.filter_cons_of_neg (by simp [hc]), hall]
      · obtain ⟨p, q, rfl, hends⟩ := hlater fs' hfs'
        exact ⟨c :: p, q, rfl, hends.separator hc⟩
    case isFalse hc =>
      rw [Bool.not_eq_true] at hc
      rw [List.modifyHead_cons] at h
      split at h
      case isTrue hend =>
        obtain ⟨rfl, hrest⟩ := List.cons.inj h
        obtain ⟨rfl, rfl⟩ | ⟨fs', rfl, hfs'⟩ := List.cons_eq_append_iff.1 hrest
        · obtain ⟨b, -, hb⟩ := (Option.any_eq_true ..).1 hend
          refine ⟨[], c :: cs, rfl, rfl, ?_, c, cs, rfl, .inr ?_⟩
          · rw [List.filter_cons_of_pos (by simp [hc]), ← hall]
            rfl
          · exact (Bool.and_eq_true_iff.1 (show (isUpper c && _) = true from hb)).1
        · obtain ⟨p, q, rfl, hends⟩ := hlater fs' hfs'
          exact ⟨c :: p, q, rfl, (hends.cons hc).before, hends.behind, hends.at_head⟩
      case isFalse =>
        obtain ⟨rfl, hrest⟩ := List.cons.inj h
        obtain ⟨p, q, rfl, hends⟩ := hlater fs hrest
        exact ⟨c :: p, q, rfl, hends.cons hc⟩

/-- So does a word of a name. -/
theorem exists_ends (s : List Char) (h : words s = fs ++ gs) (hfs : fs ≠ []) (hgs : gs ≠ []) :
    ∃ p q, s = p ++ q ∧ Ends p q fs gs := by
  rw [words_eq] at h
  obtain ⟨fs', gs', hpieces, rfl, rfl⟩ := List.filter_eq_append_iff.1 h
  have hne : ∀ l : List (List Char), l.filter (!·.isEmpty) ≠ [] → l ≠ [] := by
    rintro l hl rfl
    exact hl rfl
  obtain ⟨p, q, hs, hends⟩ := exists_ends_pieces hpieces (hne _ hfs) (hne _ hgs)
  refine ⟨p, q, hs, ?_, ?_, hends.at_head⟩
  · rw [hends.before, List.flatten_filter_not_isEmpty]
  · rw [hends.behind, List.flatten_filter_not_isEmpty]

/-! ### Underscores -/

/-- Two characters of a name and the underscores between them. -/
structure Junction (x p : List Char) (c : Char) (u : List Char) (d : Char) (q : List Char) : Prop where
  text : x = p ++ c :: (u ++ d :: q)
  before : c ≠ '_'
  between : ∀ e ∈ u, e = '_'
  behind : d ≠ '_'

/-- Two parts of a name meet between two of its characters; without an underscore between them where the second
part begins with the second of them. -/
theorem exists_junction (hp : bare p ≠ []) (hq : bare q ≠ []) :
    ∃ p' c u d q', Junction (p ++ q) p' c u d q' ∧ bare p = bare (p' ++ [c]) ∧ bare q = bare (d :: q')
      ∧ (u = [] → q = d :: q') := by
  obtain ⟨l, c, hlast⟩ := (List.eq_nil_or_concat' (bare p)).resolve_left hp
  obtain ⟨d, r, hfirst⟩ := List.exists_cons_of_ne_nil hq
  obtain ⟨p₁, p₂, rfl, -, hc⟩ := List.filter_eq_append_iff.1 hlast
  obtain ⟨v, v', rfl, hv, hcne, hv'⟩ := List.filter_eq_cons_iff.1 hc
  obtain ⟨u, q', rfl, hu, hdne, -⟩ := List.filter_eq_cons_iff.1 hfirst
  have hv' : bare v' = [] := hv'
  have hu : bare u = [] := List.filter_eq_nil_iff.2 hu
  rw [decide_eq_true_eq] at hcne hdne
  refine ⟨p₁ ++ v, c, v' ++ u, d, q', ⟨by simp, hcne, ?_, hdne⟩, ?_, ?_, ?_⟩
  · exact List.forall_mem_append.2 ⟨bare_eq_nil_iff.1 hv', bare_eq_nil_iff.1 hu⟩
  · simp only [bare_append, bare_cons hcne, hv', List.append_assoc]
    rfl
  · rw [bare_append, hu, List.nil_append]
  · intro hempty
    rw [(List.append_eq_nil_iff.1 hempty).2, List.nil_append]

/-! ### Small words -/

/-- A word of a default name: small letters and digits. -/
structure Small (w : List Char) : Prop where
  ne_nil : w ≠ []
  plain : ∀ c ∈ w, isPlainPart c = true
  bare : ∀ c ∈ w, c ≠ '_'
  small : ∀ c ∈ w, isUpper c = false ∧ c.toLower = c

/-- The words of a plain text become small. -/
theorem small_of_mem_words {s : List Char} (hs : s.all isPlainPart = true) (hw : w ∈ words s) :
    Small (w.map Char.toLower) := by
  have hmem : ∀ c ∈ w, isPlainPart c = true ∧ c ≠ '_' := fun c hc => by
    have hflat : c ∈ (words s).flatten := List.mem_flatten_of_mem hw hc
    rw [flatten_words, filter_eq_bare hs] at hflat
    obtain ⟨hcs, hbare⟩ := List.mem_filter.1 hflat
    exact ⟨List.all_eq_true.1 hs c hcs, of_decide_eq_true hbare⟩
  rw [words_eq] at hw
  have hne := (List.mem_filter.1 hw).2
  refine ⟨by simpa using hne, ?_, ?_, ?_⟩
  all_goals
    rw [List.forall_mem_map]
    intro c hc
    obtain ⟨hplain, hbare⟩ := hmem c hc
    obtain ⟨hpart, hupper, hlower, hunder⟩ := Text.toLower_of_isPlainPart hplain
  · exact hpart
  · exact mt hunder.1 hbare
  · exact ⟨hupper, hlower⟩

/-- **In a text without capital letters** the words are what stands between underscores. -/
theorem pieces_of_small (hplain : ∀ c ∈ cs, isPlainPart c = true) (hsmall : ∀ c ∈ cs, isUpper c = false)
    (before : Option Char) : pieces before cs = cs.splitOn '_' := by
  induction cs generalizing before with
  | nil => rfl
  | cons c cs ih =>
    obtain ⟨hc, hcs⟩ := List.forall_mem_cons.1 hplain
    obtain ⟨hcsmall, hcssmall⟩ := List.forall_mem_cons.1 hsmall
    have hnone : ¬ before.any (endsBefore · c cs) = true := by
      intro hend
      obtain ⟨b, -, hb⟩ := (Option.any_eq_true ..).1 hend
      rw [endsBefore, hcsmall] at hb
      cases hb
    rw [pieces_cons, if_neg hnone, ih hcs hcssmall, isSeparator_of_isPlainPart hc,
      List.splitOn_cons_eq_if_modifyHead]
    simp

theorem forall_mem_intercalate {P : Char → Prop} (hunder : P '_') (h : ∀ w ∈ ws, ∀ c ∈ w, P c) :
    ∀ c ∈ ['_'].intercalate ws, P c := by
  induction ws with
  | nil => exact nofun
  | cons w ws ih =>
    obtain ⟨hw, hws⟩ := List.forall_mem_cons.1 h
    cases ws with
    | nil =>
      rw [List.intercalate_singleton]
      exact hw
    | cons w' ws =>
      rw [List.intercalate_cons_cons]
      exact List.forall_mem_append.2 ⟨List.forall_mem_append.2 ⟨hw, by simpa using hunder⟩, ih hws⟩

/-- Small words are found between underscores. -/
theorem splitOn_intercalate (h : ∀ w ∈ ws, Small w) (hne : ws ≠ []) :
    (['_'].intercalate ws).splitOn '_' = ws :=
  List.splitOn_intercalate '_' (fun w hw hmem => (h w hw).bare '_' hmem rfl) hne

theorem words_intercalate (h : ∀ w ∈ ws, Small w) : words (['_'].intercalate ws) = ws := by
  by_cases hne : ws = []
  · subst hne
    rfl
  · have hplain := forall_mem_intercalate (P := (isPlainPart · = true)) (by decide) fun w hw => (h w hw).plain
    have hsmall := forall_mem_intercalate (P := (isUpper · = false)) (by decide)
      fun w hw c hc => ((h w hw).small c hc).1
    rw [words_eq, pieces_of_small hplain hsmall, splitOn_intercalate h hne, List.filter_eq_self]
    exact fun w hw => by simpa using (h w hw).ne_nil

theorem bare_intercalate (h : ∀ w ∈ ws, Small w) : bare (['_'].intercalate ws) = ws.flatten := by
  induction ws with
  | nil => rfl
  | cons w ws ih =>
    obtain ⟨hw, hws⟩ := List.forall_mem_cons.1 h
    have hself : bare w = w := List.filter_eq_self.2 fun c hc => decide_eq_true (hw.bare c hc)
    cases ws with
    | nil =>
      rw [List.intercalate_singleton, hself]
      exact (List.append_nil w).symm
    | cons w' ws =>
      rw [List.intercalate_cons_cons, bare_append, bare_append, hself, ih hws, List.append_assoc]
      rfl

/-- An underscore between small words stands between two of them. -/
theorem append_of_intercalate_eq {a b : List Char} (h : ∀ w ∈ ws, Small w)
    (htext : ['_'].intercalate ws = a ++ '_' :: b) : ws = a.splitOn '_' ++ b.splitOn '_' := by
  have hne : ws ≠ [] := by
    rintro rfl
    exact absurd (congrArg List.length htext) (by simp)
  rw [← splitOn_intercalate h hne, htext, List.splitOn_append_cons_self]

/-- **Underscores stand apart:** none first, none last and no two together. -/
theorem underscores_apart (h : ∀ w ∈ ws, Small w) :
    (['_'].intercalate ws).head? ≠ some '_' ∧ (['_'].intercalate ws).getLast? ≠ some '_'
      ∧ ¬ ['_', '_'] <:+: ['_'].intercalate ws := by
  have hnil : [] ∉ ws := fun hmem => (h [] hmem).ne_nil rfl
  refine ⟨fun hhead => hnil ?_, fun hlast => hnil ?_, fun hinfix => hnil ?_⟩
  · obtain ⟨b, hb⟩ := List.head?_eq_some_iff.1 hhead
    rw [append_of_intercalate_eq (a := []) h hb]
    simp
  · obtain ⟨a, ha⟩ := List.getLast?_eq_some_iff.1 hlast
    rw [append_of_intercalate_eq (b := []) h ha]
    simp
  · obtain ⟨a, b, hab⟩ := hinfix
    rw [append_of_intercalate_eq (a := a) (b := '_' :: b) h (by rw [← hab]; simp),
      List.splitOn_cons_eq_if_modifyHead]
    simp

/-! ### Default names -/

variable {name : String}

theorem all_of_isPlain (h : isPlain name = true) : name.toList.all isPlainPart = true := by
  obtain ⟨c, cs, hname, hc, hcs⟩ := exists_of_isPlain h
  rw [hname, List.all_cons, Text.isPlainPart_of_isPlainStart hc, hcs]
  rfl

/-- The words of a default name. -/
def smallWords (s : List Char) : List (List Char) := (words s).map (·.map Char.toLower)

theorem small_smallWords {s : List Char} (h : s.all isPlainPart = true) : ∀ w ∈ smallWords s, Small w := by
  rw [smallWords, List.forall_mem_map]
  exact fun w hw => small_of_mem_words h hw

/-- The default name of a plain name is made of small words. -/
theorem toList_defaultName (h : name.toList.all isPlainPart = true) :
    (defaultName name).toList = ['_'].intercalate (smallWords name.toList) := by
  rw [defaultName, String.toList_ofList, smallWords]
  refine congrArg _ (List.map_congr_left fun w hw => Text.lower_of_ascii fun c hc => ?_)
  have hflat : c ∈ (words name.toList).flatten := List.mem_flatten_of_mem hw hc
  rw [flatten_words] at hflat
  exact (Text.toNat_of_isPlainPart (List.all_eq_true.1 h c (List.mem_filter.1 hflat).1)).2

theorem bare_smallWords {s : List Char} (h : s.all isPlainPart = true) :
    (smallWords s).flatten = (bare s).map Char.toLower := by
  rw [smallWords, ← List.map_flatten, flatten_words, filter_eq_bare h]

/-- An underscore of a default name stands where a word of the name ends. -/
theorem junction_of_smallWords {s a b : List Char} (h : s.all isPlainPart = true)
    (htext : ['_'].intercalate (smallWords s) = a ++ '_' :: b) : ∃ p c u d q, Junction s p c u d q
      ∧ bare a = (bare (p ++ [c])).map Char.toLower ∧ bare b = (bare (d :: q)).map Char.toLower
      ∧ (u = [] → isUpper d = true) := by
  have hsmall := small_smallWords h
  have hwords := append_of_intercalate_eq hsmall htext
  rw [hwords] at hsmall
  obtain ⟨hbefore, hbehind⟩ := List.forall_mem_append.1 hsmall
  obtain ⟨fs, gs, hall, hfs, hgs⟩ := List.map_eq_append_iff.1 hwords
  have hpart {ds : List Char} {ws : List (List Char)} (hws : ws.map (·.map Char.toLower) = ds.splitOn '_')
      (hsmall : ∀ w ∈ ds.splitOn '_', Small w) :
      ws ≠ [] ∧ ws.flatten ≠ [] ∧ bare ds = ws.flatten.map Char.toLower := by
    have hne : ds.splitOn '_' ≠ [] := List.splitOnP_ne_nil _ _
    have hbare : bare ds = ws.flatten.map Char.toLower := by
      have hds : ['_'].intercalate (ds.splitOn '_') = ds := List.intercalate_splitOn '_'
      rw [← hds, bare_intercalate hsmall, ← hws, List.map_flatten]
    refine ⟨?_, fun hnil => ?_, hbare⟩
    · rintro rfl
      exact hne hws.symm
    · obtain ⟨w, ws', hcons⟩ := List.exists_cons_of_ne_nil hne
      have hflat := bare_intercalate hsmall
      rw [List.intercalate_splitOn, hbare, hnil, hcons] at hflat
      refine (hsmall w (by simp [hcons])).ne_nil (List.append_eq_nil_iff.1 hflat.symm).1
  obtain ⟨hfsne, hfsflat, hfsbare⟩ := hpart hfs hbefore
  obtain ⟨hgsne, hgsflat, hgsbare⟩ := hpart hgs hbehind
  obtain ⟨p, q, rfl, hends⟩ := exists_ends s hall hfsne hgsne
  rw [List.all_append, Bool.and_eq_true] at h
  have hp := hends.before
  have hq := hends.behind
  rw [filter_eq_bare h.1] at hp
  rw [filter_eq_bare h.2] at hq
  obtain ⟨p', c, u, d, q', hjunction, hp', hq', hempty⟩ :=
    exists_junction (p := p) (q := q) (by rwa [hp]) (by rwa [hq])
  refine ⟨p', c, u, d, q', hjunction, by rw [hfsbare, ← hp', hp], by rw [hgsbare, ← hq', hq], fun hu => ?_⟩
  obtain ⟨e, q'', he, hend⟩ := hends.at_head
  obtain ⟨rfl, -⟩ := List.cons.inj (he.symm.trans (hempty hu))
  refine hend.resolve_left fun hsep => hjunction.behind ?_
  have hplain := List.all_eq_true.1 h.2 e (by rw [he]; exact List.mem_cons_self)
  rw [isSeparator_of_isPlainPart hplain] at hsep
  exact of_decide_eq_true hsep

/-- **What a default name keeps.**  The default name of every plain name has its letters and digits in small
letters, no capital letter, and underscores only one by one between others.  Where one stands, two characters of
the name meet with those before and behind it on either side; and if the second of them is a digit, or the first
one a digit and the second one a small letter, then underscores stand between them in the name too.  A default
name is its own. -/
theorem default_names_keep (h : isPlain name = true) :
    let small := (defaultName name).toList
    bare small = (bare name.toList).map Char.toLower
      ∧ (∀ c ∈ small, isUpper c = false)
      ∧ (small.head? ≠ some '_' ∧ small.getLast? ≠ some '_' ∧ ¬ ['_', '_'] <:+: small)
      ∧ (∀ a b, small = a ++ '_' :: b → ∃ p c u d q, Junction name.toList p c u d q
        ∧ bare a = (bare (p ++ [c])).map Char.toLower ∧ bare b = (bare (d :: q)).map Char.toLower
        ∧ (d.isDigit = true ∨ c.isDigit = true ∧ Text.isLower d = true → u ≠ []))
      ∧ defaultName (defaultName name) = defaultName name := by
  intro small
  have hplain := all_of_isPlain h
  have hwords := small_smallWords hplain
  have hsmall : small = ['_'].intercalate (smallWords name.toList) := toList_defaultName hplain
  refine ⟨?_, ?_, ?_, fun a b hab => ?_, ?_⟩
  · rw [hsmall, bare_intercalate hwords, bare_smallWords hplain]
  · rw [hsmall]
    exact forall_mem_intercalate (by decide) fun w hw c hc => ((hwords w hw).small c hc).1
  · rw [hsmall]
    exact underscores_apart hwords
  · obtain ⟨p, c, u, d, q, hjunction, ha, hb, hempty⟩ := junction_of_smallWords hplain (hsmall.symm.trans hab)
    refine ⟨p, c, u, d, q, hjunction, ha, hb, fun hkept hu => ?_⟩
    have hd : isPlainPart d = true := List.all_eq_true.1 hplain d (by rw [hjunction.text]; simp)
    obtain ⟨hdigit, hlower⟩ := Text.not_of_isUpper hd (hempty hu)
    rw [hdigit, hlower] at hkept
    simp at hkept
  · have hagain : small.all isPlainPart = true := by
      rw [hsmall, List.all_eq_true]
      exact forall_mem_intercalate (by decide) fun w hw => (hwords w hw).plain
    rw [← String.toList_inj, toList_defaultName hagain]
    change ['_'].intercalate (smallWords small) = small
    rw [smallWords, hsmall, words_intercalate hwords]
    refine congrArg _ ((List.map_congr_left fun w hw => ?_).trans (List.map_id _))
    exact (List.map_congr_left fun c hc => ((hwords w hw).small c hc).2).trans (List.map_id w)

/-- A name with capitals, digits and underscores: all of it is kept, and the result is its own default name. -/
theorem default_names_keep_digits :
    defaultName "Md5Hash_2__XMLv3" = "md5_hash_2_xm_lv3"
      ∧ bare "md5_hash_2_xm_lv3".toList = (bare "Md5Hash_2__XMLv3".toList).map Char.toLower
      ∧ defaultName "md5_hash_2_xm_lv3" = "md5_hash_2_xm_lv3" := by
  have hname : defaultName "Md5Hash_2__XMLv3" = "md5_hash_2_xm_lv3" := by decide +kernel
  have hplain : isPlain "Md5Hash_2__XMLv3" = true := by decide +kernel
  obtain ⟨hbare, -, -, -, hagain⟩ := default_names_keep hplain
  rw [hname] at hbare hagain
  exact ⟨hname, hbare, hagain⟩

end Registration
end Loadable
