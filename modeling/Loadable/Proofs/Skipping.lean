/-
# What is skipped

Blanks, and comments that document nothing, stand between tokens (`Skips`).  There is one way to skip all
that can be skipped (`Skips.unique`), so a text is read as a word just if it is that word between what is
skipped (`tokens?_eq_word_iff`).  If more text is put behind one, what was skipped is skipped as before,
unless it was skipped to its end (`Skips.append`): a line comment goes on with what is put behind it
(`GoesOn`).
-/

import Loadable.Proofs.Words

namespace Loadable
namespace Source

variable {c : Char} {cs w rest : List Char}

/-- A text is skipped up to a rest, if blanks and comments that document nothing stand before it. -/
inductive Skips : List Char → List Char → Prop
  | refl {cs : List Char} : Skips cs cs
  | gap {c : Char} {cs rest : List Char} : isGap c = true → Skips cs rest → Skips (c :: cs) rest
  | comment {cs text cs' rest : List Char} : comment? cs = some (.plain, text, cs') → Skips cs' rest →
    Skips cs rest

theorem Skips.trans {mid : List Char} (h : Skips cs mid) (h' : Skips mid rest) : Skips cs rest := by
  induction h with
  | refl => exact h'
  | gap hc _ ih => exact .gap hc (ih h')
  | comment hcs _ ih => exact .comment hcs (ih h')

/-- Comments begin with a slash. -/
theorem eq_of_comment? {r : CommentKind × List Char × List Char} (h : comment? (c :: cs) = some r) :
    c = '/' := by
  unfold comment? at h
  split at h
  · exact (List.cons.inj ‹_›).1
  · exact (List.cons.inj ‹_›).1
  · cases h

/-- A text that nothing is skipped of. -/
structure Solid (cs : List Char) : Prop where
  gap : ∀ c ∈ cs.head?, isGap c = false
  comment : comment? cs = none

theorem solid_nil : Solid [] := ⟨nofun, rfl⟩

theorem solid_of_isIdentifierStart (hc : Text.isIdentifierStart c = true) : Solid (c :: cs) where
  gap := fun _ hd => Option.some.inj hd ▸ isGap_of_isIdentifierStart hc
  comment := by
    rw [Option.eq_none_iff_forall_ne_some]
    intro r hr
    rw [eq_of_comment? hr] at hc
    exact absurd hc (by decide)

theorem Word.solid_append (hw : Word w) : Solid (w ++ rest) := by
  obtain ⟨c, cs, rfl, hc⟩ := hw.exists_cons
  exact solid_of_isIdentifierStart hc

namespace Skips

/-- A word stops where what is skipped begins, if it stops behind it. -/
theorem stops (h : Skips cs rest) (hrest : Stops rest) : Stops cs := by
  cases h with
  | refl => exact hrest
  | gap hc => exact fun d hd => Option.some.inj hd ▸ .inl hc
  | comment hcs =>
    cases cs with
    | nil => cases hcs
    | cons c cs =>
      refine fun d hd => .inr ?_
      rw [← Option.some.inj hd, eq_of_comment? hcs]
      decide

theorem of_gap (h : Skips (c :: cs) rest) (hc : isGap c = true) : rest = c :: cs ∨ Skips cs rest := by
  cases h with
  | refl => exact .inl rfl
  | gap _ h => exact .inr h
  | comment hcs =>
    rw [eq_of_comment? hcs] at hc
    exact absurd hc (by decide)

theorem of_comment {text cs' : List Char} (h : Skips cs rest)
    (hcs : comment? cs = some (.plain, text, cs')) : rest = cs ∨ Skips cs' rest := by
  cases h with
  | refl => exact .inl rfl
  | gap hc =>
    rw [eq_of_comment? hcs] at hc
    exact absurd hc (by decide)
  | comment hcs' h =>
    cases hcs.symm.trans hcs'
    exact .inr h

/-- **There is one way to skip** all that can be skipped. -/
theorem unique {rest' : List Char} (h : Skips cs rest) (h' : Skips cs rest') (hrest : Solid rest)
    (hrest' : Solid rest') : rest = rest' := by
  induction h with
  | @refl cs =>
    cases h' with
    | refl => rfl
    | gap hc =>
      rw [hrest.gap _ rfl] at hc
      cases hc
    | comment hcs =>
      rw [hrest.comment] at hcs
      cases hcs
  | gap hc _ ih =>
    rcases h'.of_gap hc with rfl | h'
    · rw [hrest'.gap _ rfl] at hc
      cases hc
    · exact ih h' hrest
  | comment hcs _ ih =>
    rcases h'.of_comment hcs with rfl | h'
    · rw [hrest'.comment] at hcs
      cases hcs
    · exact ih h' hrest

end Skips

/-! ### Reading tokens -/

theorem line_length (cs : List Char) : (line cs).2.length ≤ cs.length := by
  fun_induction line cs <;> simp only [List.length_cons, List.length_nil] at * <;> omega

theorem blockBody_length {depth : Nat} {body : List Char} (h : blockBody depth cs = some (body, rest)) :
    rest.length < cs.length := by
  fun_induction blockBody depth cs generalizing body with
  | case1 depth cs ih =>
    obtain ⟨⟨b, r⟩, hb, h⟩ := Option.map_eq_some_iff.1 h
    cases h
    have := ih hb
    simp only [List.length_cons]
    omega
  | case2 cs =>
    cases h
    simp only [List.length_cons]
    omega
  | case3 cs d ih =>
    obtain ⟨⟨b, r⟩, hb, h⟩ := Option.map_eq_some_iff.1 h
    cases h
    have := ih hb
    simp only [List.length_cons]
    omega
  | case4 depth c cs _ _ ih =>
    obtain ⟨⟨b, r⟩, hb, h⟩ := Option.map_eq_some_iff.1 h
    cases h
    have := ih hb
    simp only [List.length_cons]
    omega
  | case5 => cases h

theorem comment?_length {kind : CommentKind} {text : List Char} (h : comment? cs = some (kind, text, rest)) :
    rest.length < cs.length := by
  unfold comment? at h
  split at h
  case h_1 cs =>
    cases h
    have := line_length cs
    simp only [List.length_cons]
    omega
  case h_2 cs =>
    obtain ⟨⟨b, r⟩, hb, h⟩ := Option.map_eq_some_iff.1 h
    cases h
    have := blockBody_length hb
    simp only [List.length_cons]
    omega
  case h_3 => cases h

/-- What is skipped has no tokens: reading goes on behind it. -/
theorem Skips.scan (h : Skips cs rest) {fuel : Nat} (hfuel : cs.length ≤ fuel) :
    ∃ fuel', rest.length ≤ fuel' ∧ Source.scan fuel cs = Source.scan fuel' rest := by
  induction h generalizing fuel with
  | refl => exact ⟨fuel, hfuel, rfl⟩
  | gap hc _ ih =>
    cases fuel with
    | zero => cases hfuel
    | succ fuel =>
      obtain ⟨fuel', hfuel', heq⟩ := ih (Nat.le_of_succ_le_succ hfuel)
      refine ⟨fuel', hfuel', heq ▸ ?_⟩
      rw [Source.scan]
      exact if_pos hc
  | @comment cs text cs' rest hcs _ ih =>
    have hlength := comment?_length hcs
    cases cs with
    | nil => cases hcs
    | cons c cs =>
      cases fuel with
      | zero => cases hfuel
      | succ fuel =>
        obtain ⟨fuel', hfuel', heq⟩ :=
          ih (Nat.le_of_lt_succ (Nat.lt_of_lt_of_le hlength hfuel))
        refine ⟨fuel', hfuel', heq ▸ ?_⟩
        obtain rfl := eq_of_comment? hcs
        rw [Source.scan, if_neg (by decide), hcs]
        dsimp only
        rw [if_neg (by simp)]
        simp [commentTokens]

/-- One step of reading: a blank or a comment is skipped, or there is a token, or what a comment documents. -/
theorem scan_succ {fuel : Nat} {ts : List Token} (h : scan (fuel + 1) cs = some ts) :
    cs = [] ∧ ts = []
      ∨ (∃ cs', scan fuel cs' = some ts ∧ ∀ rest, Skips cs' rest → Skips cs rest)
      ∨ (∃ t rest ts', token? cs = some (t, rest) ∧ scan fuel rest = some ts' ∧ ts = t :: ts')
      ∨ ∃ ts', ts = .mark '#' false :: ts' := by
  unfold scan at h
  split at h
  case h_1 => exact .inl ⟨rfl, (Option.some.inj h).symm⟩
  case h_2 c cs =>
    refine .inr ?_
    split at h
    · exact .inl ⟨cs, h, fun rest => .gap ‹_›⟩
    · split at h
      case h_1 kind text cs' hcs =>
        obtain ⟨-, h⟩ := Option.ite_none_left_eq_some.1 h
        obtain ⟨ts', hts', h⟩ := Option.map_eq_some_iff.1 h
        cases kind with
        | plain => exact .inl ⟨cs', by rw [← h]; exact hts', fun rest => .comment hcs⟩
        | outer => exact .inr (.inr ⟨_, h.symm⟩)
        | inner => exact .inr (.inr ⟨_, h.symm⟩)
      case h_2 =>
        split at h
        case h_1 t rest htoken =>
          obtain ⟨ts', hts', h⟩ := Option.map_eq_some_iff.1 h
          exact .inr (.inl ⟨t, rest, ts', htoken, hts', h.symm⟩)
        case h_2 => cases h

/-- A text without tokens is skipped. -/
theorem skips_of_scan {fuel : Nat} (h : scan fuel cs = some []) : Skips cs [] := by
  induction fuel generalizing cs with
  | zero =>
    obtain ⟨hcs, -⟩ := Option.ite_none_right_eq_some.1 h
    rw [List.isEmpty_iff.1 hcs]
    exact .refl
  | succ fuel ih =>
    rcases scan_succ h with ⟨rfl, -⟩ | ⟨cs', hcs', hskips⟩ | ⟨t, rest, ts', -, -, h⟩ | ⟨ts', h⟩
    · exact .refl
    · exact hskips _ (ih hcs')
    · cases h
    · cases h

/-- A text with a word for its token is skipped up to the word, and skipped behind it. -/
theorem exists_of_scan {fuel : Nat} {s : String} (h : scan fuel cs = some [.word s]) :
    ∃ rest, Word s.toList ∧ Skips cs (s.toList ++ rest) ∧ Skips rest [] := by
  induction fuel generalizing cs with
  | zero => cases (Option.ite_none_right_eq_some.1 h).2
  | succ fuel ih =>
    rcases scan_succ h with ⟨-, h⟩ | ⟨cs', hcs', hskips⟩ | ⟨t, rest, ts', htoken, hrest, h⟩ | ⟨ts', h⟩
    · cases h
    · obtain ⟨rest, hword, hcs, hrest⟩ := ih hcs'
      exact ⟨rest, hword, hskips _ hcs, hrest⟩
    · obtain ⟨rfl, rfl⟩ := List.cons.inj h
      obtain ⟨w, hw, rfl⟩ := word?_of_token? htoken
      obtain ⟨hword, rfl⟩ := word_of_word? hw
      rw [String.toList_ofList]
      exact ⟨rest, hword, .refl, skips_of_scan hrest⟩
    · cases h

/-- A text is read as tokens, however far one reads. -/
def Reads (cs : List Char) (ts : List Token) : Prop := ∀ fuel, cs.length ≤ fuel → scan fuel cs = some ts

theorem reads_nil : Reads [] [] := by
  intro fuel _
  cases fuel <;> rfl

theorem Skips.reads {ts : List Token} (h : Skips cs rest) (hrest : Reads rest ts) : Reads cs ts := by
  intro fuel hfuel
  obtain ⟨fuel', hfuel', heq⟩ := h.scan hfuel
  rw [heq]
  exact hrest fuel' hfuel'

/-- A token at the front of a text is the first one read. -/
theorem reads_cons {t : Token} {ts : List Token} (hsolid : Solid cs) (htoken : token? cs = some (t, rest))
    (hless : rest.length < cs.length) (hrest : Reads rest ts) : Reads cs (t :: ts) := by
  intro fuel hfuel
  cases cs with
  | nil => cases htoken
  | cons c cs =>
    cases fuel with
    | zero => cases hfuel
    | succ fuel =>
      rw [scan, if_neg (by rw [hsolid.gap c rfl]; exact Bool.false_ne_true), hsolid.comment]
      dsimp only
      rw [htoken]
      dsimp only
      rw [hrest fuel (Nat.le_of_lt_succ (Nat.lt_of_lt_of_le hless hfuel))]
      rfl

theorem Word.reads {ts : List Token} (hw : Word w) (hstops : Stops rest) (hrest : Reads rest ts) :
    Reads (w ++ rest) (.word (String.ofList w) :: ts) := by
  have hless : rest.length < (w ++ rest).length := by
    obtain ⟨c, cs, rfl, -⟩ := hw.exists_cons
    simp only [List.cons_append, List.length_cons, List.length_append]
    omega
  exact reads_cons hw.solid_append (hw.token?_append hstops) hless hrest

/-- **A text is read as a word** just if it is that word between what is skipped. -/
theorem tokens?_eq_word_iff {text s : String} : tokens? text = some [.word s] ↔
    ∃ rest, Word s.toList ∧ Skips (afterOrderMark text.toList) (s.toList ++ rest) ∧ Skips rest [] := by
  constructor
  · intro h
    exact exists_of_scan (Option.filter_eq_some_iff.1 h).1
  · rintro ⟨rest, hword, htext, hrest⟩
    have hscan := htext.reads (hword.reads (hrest.stops stops_nil) (hrest.reads reads_nil)) _ (Nat.le_refl _)
    rw [String.ofList_toList] at hscan
    exact Option.filter_eq_some_iff.2 ⟨hscan, rfl⟩

/-! ### With more text behind -/

theorem afterOrderMark_cons (hc : c ≠ '\uFEFF') : afterOrderMark (c :: cs) = c :: cs := by
  unfold afterOrderMark
  split
  · exact absurd (List.cons.inj ‹_›).1 hc
  · rfl

/-- A byte order mark is still at the front with more text behind. -/
theorem afterOrderMark_append (h : afterOrderMark cs ≠ []) (e : List Char) :
    afterOrderMark (cs ++ e) = afterOrderMark cs ++ e := by
  cases cs with
  | nil => exact absurd rfl h
  | cons c cs =>
    by_cases hc : c = '\uFEFF'
    · rw [hc]
      rfl
    · rw [List.cons_append, afterOrderMark_cons hc, afterOrderMark_cons hc, List.cons_append]

/-- A line that ends in a text ends there with more text behind it. -/
theorem line_append {cs : List Char} (e : List Char) (h : (line cs).2 ≠ []) :
    line (cs ++ e) = ((line cs).1, (line cs).2 ++ e) := by
  fun_induction line cs with
  | case1 => exact absurd rfl h
  | case2 cs => rfl
  | case3 cs => rfl
  | case4 c cs hend hend' ih =>
    have ih := ih h
    rw [List.cons_append, line.eq_4 _ _ hend, ih]
    intro ds hc heq
    cases cs with
    | nil => exact h rfl
    | cons d cs => exact hend' cs hc (congrArg (· :: cs) (List.cons.inj heq).1)

theorem line_eq_self {cs : List Char} (h : '\n' ∉ cs) : line cs = (cs, []) := by
  fun_induction line cs with
  | case1 => rfl
  | case2 cs => exact absurd List.mem_cons_self h
  | case3 cs => exact absurd (List.mem_cons_of_mem _ List.mem_cons_self) h
  | case4 c cs _ _ ih =>
    rw [ih fun hmem => h (List.mem_cons_of_mem _ hmem)]

/-- A line that does not end is all of the text. -/
theorem not_mem_of_line {cs : List Char} (h : (line cs).2 = []) : '\n' ∉ cs := by
  fun_induction line cs with
  | case1 => nofun
  | case2 cs => cases h
  | case3 cs => cases h
  | case4 c cs hc _ ih =>
    rw [List.mem_cons]
    rintro (rfl | hmem)
    · exact hc rfl
    · exact ih h hmem

/-- A comment between marks ends where it ended, with more text behind it. -/
theorem blockBody_append {depth : Nat} {cs body : List Char} (e : List Char)
    (h : blockBody depth cs = some (body, rest)) :
    blockBody depth (cs ++ e) = some (body, rest ++ e) := by
  fun_induction blockBody depth cs generalizing body with
  | case1 depth cs ih =>
    obtain ⟨⟨b, r⟩, hb, h⟩ := Option.map_eq_some_iff.1 h
    cases h
    simp only [List.cons_append, blockBody, ih hb, Option.map_some]
  | case2 cs =>
    cases h
    rfl
  | case3 cs d ih =>
    obtain ⟨⟨b, r⟩, hb, h⟩ := Option.map_eq_some_iff.1 h
    cases h
    simp only [List.cons_append, blockBody, ih hb, Option.map_some]
  | case4 depth c cs hopen hclose ih =>
    obtain ⟨⟨b, r⟩, hb, h⟩ := Option.map_eq_some_iff.1 h
    cases h
    cases cs with
    | nil => cases hb
    | cons d ds =>
      rw [List.cons_append, blockBody.eq_4, ih hb]
      · rfl
      · exact fun cs' hc heq => hopen ds hc (congrArg (· :: ds) (List.cons.inj heq).1)
      · exact fun cs' hc heq => hclose ds hc (congrArg (· :: ds) (List.cons.inj heq).1)
  | case5 => cases h

/-- A comment at the front of a text is a line comment that goes on to the end, or it ends, and ends there
with more text behind it. -/
theorem comment?_append {kind : CommentKind} {text : List Char} (e : List Char)
    (h : comment? cs = some (kind, text, rest)) :
    rest = [] ∧ (∃ body, cs = '/' :: '/' :: body ∧ '\n' ∉ body ∧ (lineComment body).1 = kind)
      ∨ comment? (cs ++ e) = some (kind, text, rest ++ e) := by
  unfold comment? at h
  split at h
  case h_1 body =>
    cases h
    by_cases hrest : (line body).2 = []
    · have hbody := not_mem_of_line hrest
      refine .inl ⟨hrest, body, rfl, hbody, ?_⟩
      rw [line_eq_self hbody]
      rfl
    · refine .inr ?_
      rw [List.cons_append, List.cons_append, comment?, line_append e hrest]
      rfl
  case h_2 cs =>
    obtain ⟨⟨body, r⟩, hbody, h⟩ := Option.map_eq_some_iff.1 h
    cases h
    refine .inr ?_
    rw [List.cons_append, List.cons_append, comment?, blockBody_append e hbody]
    rfl
  case h_3 => cases h

theorem Skips.eq_nil (h : Skips [] rest) : rest = [] := by
  cases h with
  | refl => rfl
  | comment hcs => cases hcs

/-- **What is skipped up to some text is skipped up to it** with more behind it. -/
theorem Skips.append (h : Skips cs rest) (hrest : rest ≠ []) (e : List Char) :
    Skips (cs ++ e) (rest ++ e) := by
  induction h with
  | refl => exact .refl
  | gap hc _ ih => exact .gap hc (ih hrest)
  | comment hcs hcs' ih =>
    rcases comment?_append e hcs with ⟨rfl, -⟩ | hcomment
    · exact absurd hcs'.eq_nil hrest
    · exact .comment hcomment (ih hrest)

/-- What is skipped up to a line comment that goes on with the text behind it, and documents nothing. -/
def GoesOn (cs : List Char) : Prop :=
  ∃ body, Skips cs ('/' :: '/' :: body) ∧ '\n' ∉ body ∧ (lineComment body).1 = .plain

/-- What does not make a line comment another kind of comment, and does not end it. -/
structure Continues (e : List Char) : Prop where
  line : '\n' ∉ e
  kind : ∀ c ∈ e.head?, c ≠ '/' ∧ c ≠ '!'

theorem lineComment_append {body e : List Char} (h : (lineComment body).1 = .plain)
    (he : ∀ c ∈ e.head?, c ≠ '/' ∧ c ≠ '!') : (lineComment (body ++ e)).1 = .plain := by
  have plain {c : Char} {cs : List Char} (hc : c ≠ '/' ∧ c ≠ '!') : (lineComment (c :: cs)).1 = .plain := by
    unfold lineComment
    split
    · exact absurd (List.cons.inj ‹_›).1 hc.2
    · rfl
    · exact absurd (List.cons.inj ‹_›).1 hc.1
    · rfl
  unfold lineComment at h
  split at h
  case h_1 => cases h
  case h_2 => rfl
  case h_3 => cases h
  case h_4 hbang _ hslash =>
    cases body with
    | nil =>
      cases e with
      | nil => rfl
      | cons c cs => exact plain (he c rfl)
    | cons c cs =>
      refine plain ⟨?_, ?_⟩
      · rintro rfl
        exact hslash cs rfl
      · rintro rfl
        exact hbang cs rfl

/-- A line comment goes on with what is put behind it. -/
theorem GoesOn.skips_append {e : List Char} (h : GoesOn cs) (he : Continues e) : Skips (cs ++ e) [] := by
  obtain ⟨body, hcs, hline, hkind⟩ := h
  refine (hcs.append nofun e).trans ?_
  have hline' : '\n' ∉ body ++ e := by
    rw [List.mem_append, not_or]
    exact ⟨hline, he.line⟩
  have hcomment : comment? ('/' :: '/' :: (body ++ e)) = some (.plain, (lineComment (body ++ e)).2, []) := by
    rw [comment?, line_eq_self hline']
    dsimp only
    rw [lineComment_append hkind he.kind]
  exact .comment hcomment .refl

/-- **Only a line comment goes on:** if a text is skipped, and skipped with the beginning of an identifier
behind it, it ends in such a comment. -/
theorem Skips.goesOn {e : List Char} (h : Skips cs []) (hcs : cs ≠ [])
    (hc : Text.isIdentifierStart c = true) (h' : Skips (cs ++ c :: e) []) : GoesOn cs := by
  have hsolid : ¬ Skips (c :: e) [] := fun h =>
    nomatch h.unique .refl solid_nil (solid_of_isIdentifierStart hc)
  generalize hend : [] = rest at h
  induction h with
  | refl => exact absurd hend.symm hcs
  | @gap d ds rest hd _ ih =>
    have h' := (h'.of_gap hd).resolve_left nofun
    have hds : ds ≠ [] := fun hds => hsolid (by rwa [hds] at h')
    obtain ⟨body, hbody, hline⟩ := ih hds h' hend
    exact ⟨body, .gap hd hbody, hline⟩
  | @comment cs text cs' rest hcomment _ ih =>
    rcases comment?_append (c :: e) hcomment with ⟨-, body, rfl, hline, hkind⟩ | hcomment'
    · exact ⟨body, .refl, hline, hkind⟩
    · have h' := (h'.of_comment hcomment').resolve_left (by simp)
      have hds : cs' ≠ [] := fun hds => hsolid (by rwa [hds] at h')
      obtain ⟨body, hbody, hline⟩ := ih hds h' hend
      exact ⟨body, .comment hcomment hbody, hline⟩

end Source
end Loadable
