/-
# Names and the symbols under them

A name is checked by what it reads as, and what a name with an ending reads as is its symbol.  So a name
need not be the symbol: what is skipped before the word it reads as does not count, and behind the word
there may be a line comment, which takes up every ending (`Reads`, `symbolName_of_reads`).  No other name
has symbols at all (`reads_of_symbolName`).  A registration that passes its other checks exports just these
symbols under its names, or is refused for one that reads otherwise (`registered_or_refused`).  A plain name
is its symbol to the letter (`Exported.toTheLetter_iff`), and always good if it is no keyword
(`reads_of_isPlain`).
-/

import Loadable.Proofs.Resolution

namespace Loadable
namespace Registration

open Source (Word Skips GoesOn Continues Implementation afterOrderMark isKeyword)

theorem eq_of_symbolName_eq_error {name ending : String} {r : Refusal}
    (h : symbolName name ending = .error r) : r = .invalidSymbol (name ++ ending) := by
  unfold symbolName at h
  split at h
  · cases h
  · exact (Except.error.inj h).symm

/-! ### Endings -/

theorem not_suffix_of_mem_endings : ∀ e ∈ endings, ∀ k ∈ Source.keywords ++ Source.neverRaw,
    ¬ e.toList <:+ k.toList := by
  decide

theorem toList_of_mem_endings : ∀ e ∈ endings, e.toList.head? = some '_' := by
  decide

theorem isPlainPart_of_mem_endings : ∀ e ∈ "" :: endings, e.toList.all Text.isPlainPart = true := by
  decide

/-- No ending ends a line comment. -/
theorem continues_of_mem_endings {e : String} (he : e ∈ "" :: endings) : Continues e.toList := by
  have hline : ∀ e ∈ "" :: endings, '\n' ∉ e.toList := by decide
  refine ⟨hline e he, fun c hc => ?_⟩
  rcases List.mem_cons.1 he with rfl | he
  · cases hc
  · rw [toList_of_mem_endings e he] at hc
    obtain rfl := Option.some.inj hc
    decide

/-- A word with an ending is a word. -/
theorem word_append_ending {w e : String} (hw : Word w.toList) (he : e ∈ "" :: endings) :
    Word (w ++ e).toList := by
  rw [String.toList_append]
  refine hw.append (fun c hc => ?_) fun k hk hsuffix => ?_
  · exact Text.isIdentifierPart_of_isPlainPart
      (List.all_eq_true.1 (isPlainPart_of_mem_endings e he) c hc)
  · rcases List.mem_cons.1 he with rfl | he
    · rfl
    · exact absurd hsuffix (not_suffix_of_mem_endings e he k (List.mem_append_right _ hk))

/-- No keyword has an ending. -/
theorem isKeyword_append_ending {w e : String} (hw : isKeyword w = false) (he : e ∈ "" :: endings) :
    isKeyword (w ++ e) = false := by
  rcases List.mem_cons.1 he with rfl | he
  · rwa [String.append_empty]
  · rw [isKeyword, List.contains_eq_mem, decide_eq_false_iff_not]
    intro hmem
    refine not_suffix_of_mem_endings e he _ (List.mem_append_left _ hmem) ?_
    rw [String.toList_append]
    exact List.suffix_append _ _

/-! ### Names that are good -/

/-- How a good name reads: as a word that is no keyword, behind what is skipped.  If it is closed, nothing
stands behind the word, and else what is skipped up to a line comment that goes on. -/
structure Reads (name w : String) (closed : Bool) : Prop where
  word : Word w.toList
  keyword : isKeyword w = false
  text : ∃ behind, Skips (afterOrderMark name.toList) (w.toList ++ behind)
    ∧ if closed then behind = [] else GoesOn behind

/-- The symbol for an ending, of a name that reads as a word. -/
def symbolOf (w : String) (closed : Bool) (ending : String) : String := if closed then w ++ ending else w

/-- What is skipped before a word is skipped with an ending behind it. -/
theorem skips_append_ending {name w : String} {behind : List Char} (hw : Word w.toList)
    (h : Skips (afterOrderMark name.toList) (w.toList ++ behind)) (ending : String) :
    Skips (afterOrderMark (name ++ ending).toList) (w.toList ++ (behind ++ ending.toList)) := by
  have hne : w.toList ++ behind ≠ [] := by
    obtain ⟨c, cs, hcs, -⟩ := hw.exists_cons
    rw [hcs]
    nofun
  have hname : afterOrderMark name.toList ≠ [] := by
    intro hnil
    rw [hnil] at h
    exact hne h.eq_nil
  rw [String.toList_append, Source.afterOrderMark_append hname, ← List.append_assoc]
  exact h.append hne _

/-- **The symbols of a good name** are the word with the endings if it is closed, else all the word. -/
theorem symbolName_of_reads {name w ending : String} {closed : Bool} (h : Reads name w closed)
    (hending : ending ∈ "" :: endings) : symbolName name ending = .ok (symbolOf w closed ending) := by
  obtain ⟨hw, hkeyword, behind, htext, hbehind⟩ := h
  have htext' := skips_append_ending hw htext ending
  rw [symbolName_eq_ok_iff, identifier?_eq_some_iff]
  cases closed with
  | true =>
    obtain rfl : behind = [] := hbehind
    refine ⟨isKeyword_append_ending hkeyword hending, [], word_append_ending hw hending, ?_, .refl⟩
    rw [List.nil_append, ← String.toList_append] at htext'
    rw [symbolOf, if_pos rfl, List.append_nil]
    exact htext'
  | false =>
    have hgoes : GoesOn behind := hbehind
    exact ⟨hkeyword, _, hw, htext', hgoes.skips_append (continues_of_mem_endings hending)⟩

/-- **Only good names have symbols.** -/
theorem reads_of_symbolName {name w ending s : String} (h : identifier? name = some w)
    (hending : ending ∈ endings) (hs : symbolName name ending = .ok s) :
    ∃ closed, Reads name w closed := by
  obtain ⟨hkeyword, behind, hw, htext, hbehind⟩ := identifier?_eq_some_iff.1 h
  by_cases hempty : behind = []
  · exact ⟨true, hw, hkeyword, behind, htext, hempty⟩
  · obtain ⟨-, rest, hs, hread, hrest⟩ := identifier?_eq_some_iff.1 (symbolName_eq_ok_iff.1 hs)
    have htext' := skips_append_ending hw htext ending
    -- the word is the same as without the ending, so the ending is skipped
    have hsame := hread.unique htext' hs.solid_append hw.solid_append
    have hword := hs.word?_append (hrest.stops Source.stops_nil)
    rw [hsame, hw.word?_append ((hbehind.stops Source.stops_nil).append hempty)] at hword
    obtain ⟨-, rfl⟩ := Prod.mk.inj (Option.some.inj hword)
    obtain ⟨e, he⟩ := List.head?_eq_some_iff.1 (toList_of_mem_endings ending hending)
    rw [he] at hrest
    exact ⟨false, hw, hkeyword, behind, htext, hbehind.goesOn hempty (by decide) hrest⟩

/-- A good name reads as the word. -/
theorem identifier?_of_reads {name w : String} {closed : Bool} (h : Reads name w closed) :
    identifier? name = some w := by
  have hsymbol : symbolName name "" = .ok (symbolOf w closed "") := symbolName_of_reads h (by decide)
  have hself : symbolOf w closed "" = w := by
    cases closed
    · rfl
    · exact String.append_empty
  rw [hself] at hsymbol
  rw [symbolName_eq_ok_iff, String.append_empty] at hsymbol
  exact hsymbol

/-- **A plain name is closed, and the word itself,** if it is good. -/
theorem Reads.eq_of_isPlain {name w : String} {closed : Bool} (h : Reads name w closed)
    (hplain : isPlain name = true) : w = name ∧ closed = true := by
  obtain rfl := identifier?_of_isPlain hplain (identifier?_of_reads h)
  refine ⟨rfl, ?_⟩
  cases closed with
  | true => rfl
  | false =>
    have hread : symbolName w "_init" = .ok (symbolOf w false "_init") :=
      symbolName_of_reads h (by decide)
    have hsymbol := symbolName_of_isPlain hplain (by decide) hread
    have hlength := congrArg String.length hsymbol
    simp [symbolOf] at hlength

/-- **A plain name that is no keyword is good.** -/
theorem reads_of_isPlain {name : String} (hplain : isPlain name = true)
    (hkeyword : isKeyword name = false) : Reads name name true := by
  refine ⟨word_of_isPlain hplain, hkeyword, [], ?_, rfl⟩
  rw [List.append_nil, afterOrderMark_of_isPlain hplain]
  exact .refl

/-! ### Registrations -/

/-- The callbacks of an implementation end as symbols may. -/
theorem ending_of_mem_slots {i : Implementation} {role : Role} {slots : List Slot}
    (h : role.slots? i = some slots) {slot : Slot} (hslot : slot ∈ slots) :
    slot.ending ∈ "" :: endings := by
  cases role with
  | basic =>
    obtain ⟨type, -, rfl⟩ := Option.map_eq_some_iff.1 h
    rcases Shape.eq_of_mem_slots hslot with rfl | rfl | rfl
    · exact show "_init" ∈ "" :: endings by decide
    · exact show "_deinit" ∈ "" :: endings by decide
    · exact show "" ∈ "" :: endings by decide
  | aggregate =>
    obtain rfl := Option.some.inj h
    rcases eq_of_mem_groupSlots hslot with rfl | rfl | rfl
    · exact show "_clear" ∈ "" :: endings by decide
    · exact show "_add" ∈ "" :: endings by decide
    · exact show "_remove" ∈ "" :: endings by decide

/-- One of them has an ending. -/
theorem exists_ending {i : Implementation} {role : Role} {slots : List Slot}
    (h : role.slots? i = some slots) : ∃ slot ∈ slots, slot.ending ∈ endings := by
  cases role with
  | basic =>
    obtain ⟨type, -, rfl⟩ := Option.map_eq_some_iff.1 h
    exact ⟨_, .head _, show "_init" ∈ endings by decide⟩
  | aggregate =>
    obtain rfl := Option.some.inj h
    exact ⟨_, .head _, show "_clear" ∈ endings by decide⟩

/-- What is added for an implementation are its callbacks, under its names. -/
theorem Expansion.ofRole_eq {names : Names} {i : Implementation} {role : Role} {slots : List Slot}
    (h : role.slots? i = some slots) : ∃ d : Declaration, d.names = names
      ∧ ofRole names i role = (do
        let exports ← exportsOf names fun name => slots.mapM (·.emit? name)
        return ⟨d, exports⟩) := by
  cases role with
  | basic =>
    obtain ⟨type, htype, rfl⟩ := Option.map_eq_some_iff.1 h
    refine ⟨.function i.selfType.tokens ((Shape.ofType type).state i.selfType.tokens) names, rfl, ?_⟩
    rw [← funext (functionExports_eq_mapM _ _), ofRole, htype]
    rfl
  | aggregate =>
    obtain rfl := Option.some.inj h
    refine ⟨.aggregate i.selfType.tokens names, rfl, ?_⟩
    rw [← funext (aggregateExports_eq_mapM _ _)]
    rfl

theorem not_reads_of_error {name ending : String} {r : Refusal} (hending : ending ∈ "" :: endings)
    (h : symbolName name ending = .error r) (w : String) (closed : Bool) : ¬ Reads name w closed :=
  fun hreads => nomatch h.symm.trans (symbolName_of_reads hreads hending)

/-- What is added for an implementation of a role, under names that are checked first. -/
def Expansion.ofNames (names : Names) (i : Implementation) (role : Role) : Except Refusal Expansion := do
  discard (names.all.mapM (symbolName · ""))
  ofRole names i role

/-- Behind the other checks there are the names. -/
theorem Expansion.ofImplementation_eq {given : GivenNames} {i : Implementation} {role : Role}
    {last : Source.Segment} (hrole : i.trait.bind Role.ofPath? = some role) (hgeneric : i.parameters = 0)
    (hself : i.selfType.toPath?.bind (·.segments.getLast?) = some last) :
    ofImplementation given i = ofNames (Names.ofGiven given last.name) i role := by
  obtain ⟨path, hpath, hlast⟩ := Option.bind_eq_some_iff.1 hself
  rw [ofNames, ← Except.forM_discard, ofImplementation, hrole, hpath]
  simp only [hgeneric, ne_eq, not_true_eq_false, if_false]
  change (required .unnamedType path.segments.getLast? >>= _) = _
  rw [show path.segments.getLast? = some last from hlast]
  rfl

section Names

variable {i : Implementation} {role : Role} {slots : List Slot}

/-- The callback that a slot is under a name that reads as a word. -/
def Slot.under (slot : Slot) (w : String) (closed : Bool) : Export :=
  ⟨symbolOf w closed slot.ending, slot.kind, slot.handler⟩

theorem Slot.eq_under {slot : Slot} {name w : String} {closed : Bool} {x : Export}
    (h : Reads name w closed) (hending : slot.ending ∈ "" :: endings) (hx : slot.emit? name = .ok x) :
    x = slot.under w closed := by
  obtain ⟨hsymbol, hkind, hhandler⟩ := emit?_eq_ok_iff.1 hx
  have hsame := hsymbol.symm.trans (symbolName_of_reads h hending)
  rw [under, ← hkind, ← hhandler, ← Except.ok.inj hsame]

theorem Slot.symbolName_of_emit? {slot : Slot} {name : String} {r : Refusal}
    (h : slot.emit? name = .error r) : symbolName name slot.ending = .error r := by
  unfold emit? at h
  cases hsymbol : symbolName name slot.ending with
  | error r' =>
    rw [hsymbol] at h
    cases h
    rfl
  | ok s =>
    rw [hsymbol] at h
    cases h

/-- Exports under good names: each callback under each name, and nothing else. -/
structure Exported (exports : List Export) (names : List String) (slots : List Slot) : Prop where
  complete : ∀ name ∈ names, ∃ w closed, Reads name w closed ∧ ∀ slot ∈ slots, slot.under w closed ∈ exports
  sound : ∀ x ∈ exports, ∃ name ∈ names, ∃ w closed, Reads name w closed
    ∧ ∃ slot ∈ slots, x = slot.under w closed

theorem Emission.exported {exports : List Export} {names : List String}
    (h : Emission exports names slots) (hgood : ∀ name ∈ names, ∃ w closed, Reads name w closed)
    (hendings : ∀ slot ∈ slots, slot.ending ∈ "" :: endings) : Exported exports names slots where
  complete name hname := by
    obtain ⟨w, closed, hreads⟩ := hgood name hname
    refine ⟨w, closed, hreads, fun slot hslot => ?_⟩
    obtain ⟨x, hx, hemit⟩ := h.complete name hname slot hslot
    rw [← Slot.eq_under hreads (hendings slot hslot) hemit]
    exact hx
  sound x hx := by
    obtain ⟨name, hname, slot, hslot, hemit⟩ := h.sound x hx
    obtain ⟨w, closed, hreads⟩ := hgood name hname
    exact ⟨name, hname, w, closed, hreads, slot, hslot, Slot.eq_under hreads (hendings slot hslot) hemit⟩

/-- **The names decide:** all are good and have their symbols, or one is not. -/
theorem Expansion.exported_or_refused (names : Names) (hslots : role.slots? i = some slots) :
    (∃ e, ofNames names i role = .ok e ∧ e.declaration.names = names
        ∧ Exported e.exports names.all slots)
      ∨ ∃ name ∈ names.all, (∀ w closed, ¬ Reads name w closed)
        ∧ ∃ ending ∈ "" :: slots.map Slot.ending,
          ofNames names i role = .error (.invalidSymbol (name ++ ending)) := by
  have hendings : ∀ slot ∈ slots, slot.ending ∈ "" :: endings := fun _ => ending_of_mem_slots hslots
  obtain ⟨d, hd, hadded⟩ : ∃ d : Declaration, d.names = names ∧ ofRole names i role = _ :=
    ofRole_eq hslots
  rw [ofNames, hadded]
  cases hcheck : names.all.mapM (symbolName · "") with
  | error r =>
    obtain ⟨name, hname, herror⟩ := Except.exists_of_mapM_error hcheck
    refine .inr ⟨name, hname, not_reads_of_error (by decide) herror, "", .head _, ?_⟩
    rw [← eq_of_symbolName_eq_error herror]
    rfl
  | ok words =>
    cases hall : names.all.mapM fun name => slots.mapM (·.emit? name) with
    | error r =>
      obtain ⟨name, hname, hfails⟩ := Except.exists_of_mapM_error hall
      obtain ⟨slot, hslot, hfails⟩ := Except.exists_of_mapM_error hfails
      have herror := Slot.symbolName_of_emit? hfails
      refine .inr ⟨name, hname, not_reads_of_error (hendings slot hslot) herror, slot.ending,
        List.mem_cons_of_mem _ (List.mem_map_of_mem hslot), ?_⟩
      rw [← eq_of_symbolName_eq_error herror, exportsOf, hall]
      rfl
    | ok exports =>
      have hexports : exportsOf names (fun name => slots.mapM (·.emit? name)) = .ok exports.flatten := by
        rw [exportsOf, hall]
        rfl
      have hemission := emission_exportsOf (fun _ => rfl) hexports
      rw [hexports]
      refine .inl ⟨⟨d, _⟩, rfl, hd, hemission.exported (fun name hname => ?_) hendings⟩
      obtain ⟨w, -, hw⟩ := Except.exists_mem_of_mapM hcheck hname
      obtain ⟨slot, hslot, hending⟩ := exists_ending hslots
      obtain ⟨x, -, hemit⟩ := hemission.complete name hname slot hslot
      have hread := symbolName_eq_ok_iff.1 hw
      rw [String.append_empty] at hread
      exact ⟨w, reads_of_symbolName hread hending (Slot.emit?_eq_ok_iff.1 hemit).1⟩

/-- A plain name that is the symbol, to the letter: it is no keyword, and the symbols under it are the name with
the endings.  A name that is not plain may be its symbol too, as `é` is, but is none of these. -/
structure ToTheLetter (exports : List Export) (name : String) (slots : List Slot) : Prop where
  plain : isPlain name = true
  keyword : isKeyword name = false
  symbols : ∀ slot ∈ slots, slot.emit name ∈ exports

/-- Of the names of a registration, all that are plain are the symbols to the letter. -/
theorem Exported.toTheLetter_iff {exports : List Export} {names : List String}
    (h : Exported exports names slots) {name : String} (hname : name ∈ names) :
    ToTheLetter exports name slots ↔ isPlain name = true := by
  refine ⟨ToTheLetter.plain, fun hplain => ?_⟩
  obtain ⟨w, closed, hreads, hall⟩ := h.complete name hname
  obtain ⟨rfl, rfl⟩ := hreads.eq_of_isPlain hplain
  exact ⟨hplain, hreads.keyword, hall⟩

end Names

/-- **A name is the symbol up to what is skipped,** and no other name is accepted.  A registration that passes
its other checks exports its callbacks under its names, given or made from the type, and nothing else: under
each the symbols are the word it reads as with the endings, or the word alone, if a line comment behind it
takes up the endings.  Under every plain name they are the name with the endings, to the letter.  Else one of
the names does not read so, and the registration is refused for it, or for it with an ending; this is none
that is plain and no keyword. -/
theorem registered_or_refused {arguments item : String} {given : GivenNames} {i : Implementation}
    {role : Role} {last : Source.Segment} {slots : List Slot}
    (hgiven : GivenNames.read arguments = .ok given) (hitem : Source.implementation? item = some i)
    (hrole : i.trait.bind Role.ofPath? = some role) (hgeneric : i.parameters = 0)
    (hself : i.selfType.toPath?.bind (·.segments.getLast?) = some last)
    (hslots : role.slots? i = some slots) :
    let names := Names.ofGiven given last.name
    (∃ e, Expansion.read arguments item = .ok e ∧ e.declaration.names = names
        ∧ Exported e.exports names.all slots
        ∧ ∀ name ∈ names.all, ToTheLetter e.exports name slots ↔ isPlain name = true)
      ∨ ∃ name ∈ names.all, (∀ w closed, ¬ Reads name w closed)
        ∧ ¬ (isPlain name = true ∧ isKeyword name = false)
        ∧ ∃ ending ∈ "" :: slots.map Slot.ending,
          Expansion.read arguments item = .error (.refused (.invalidSymbol (name ++ ending))) := by
  intro names
  have hread := Expansion.read_eq hgiven hitem
  rw [Expansion.ofImplementation_eq hrole hgeneric hself] at hread
  rcases Expansion.exported_or_refused (Names.ofGiven given last.name) hslots with
    ⟨e, he, hnames, hexported⟩ | ⟨name, hname, hbad, ending, hending, he⟩
  · rw [he] at hread
    exact .inl ⟨e, hread, hnames, hexported, fun name hname => hexported.toTheLetter_iff hname⟩
  · rw [he] at hread
    exact .inr ⟨name, hname, hbad, fun h => hbad _ _ (reads_of_isPlain h.1 h.2), ending, hending, hread⟩

/-- The names of words that are collected are good. -/
theorem registered_or_refused_words :
    let arguments := "name = \"collect_words\", alias = \"words\""
    let item := "impl BasicUdf for JoinWords \x7b type Returns<'a> = Option<String>; \x7d"
    ∃ e, Expansion.read arguments item = .ok e
      ∧ ∀ name ∈ ["collect_words", "words"], ∀ ending ∈ ["_init", "_deinit", ""],
        ∃ x ∈ e.exports, x.symbol = name ++ ending := by
  intro arguments item
  have hgiven : GivenNames.read arguments = .ok ⟨some "collect_words", ["words"]⟩ := by decide +kernel
  have hall : (Source.implementation? item).any (fun i =>
      i.trait.bind Role.ofPath? = some .basic ∧ i.parameters = 0
        ∧ (i.selfType.toPath?.bind (·.segments.getLast?)).isSome
        ∧ (i.type? "Returns").isSome) = true := by
    decide +kernel
  obtain ⟨i, hi, hchecked⟩ := (Option.any_eq_true _ _).1 hall
  obtain ⟨hrole, hgeneric, hself, hreturns⟩ := of_decide_eq_true hchecked
  obtain ⟨last, hself⟩ := Option.isSome_iff_exists.1 hself
  obtain ⟨type, htype⟩ := Option.isSome_iff_exists.1 hreturns
  have hslots : Role.basic.slots? i = some ((Shape.ofType type).slots i.selfType.tokens) := by
    rw [Role.slots?, htype]
    rfl
  have hgood : ∀ name ∈ ["collect_words", "words"], isPlain name = true ∧ isKeyword name = false := by
    decide
  rcases registered_or_refused hgiven hi hrole hgeneric hself hslots with
    ⟨e, he, -, -, hletter⟩ | ⟨name, hname, -, hbad, -⟩
  · refine ⟨e, he, fun name hname ending hending => ?_⟩
    have hsymbols := ((hletter name hname).2 (hgood name hname).1).symbols
    have hslot : ending ∈ ((Shape.ofType type).slots i.selfType.tokens).map Slot.ending := hending
    obtain ⟨slot, hmem, rfl⟩ := List.mem_map.1 hslot
    exact ⟨slot.emit name, hsymbols slot hmem, rfl⟩
  · exact absurd (hgood name hname) hbad

/-- **A name need not be the symbol:** one that begins with a blank is accepted, declared as it is given, and
its symbols are without the blank. -/
theorem exists_symbol_ne_name :
    ∃ e, Expansion.read "name = \" foo\"" "impl BasicUdf for Foo \x7b type Returns<'a> = i64; \x7d" = .ok e
      ∧ e.declaration.names.name = " foo" ∧ isPlain " foo" = false
      ∧ e.exports.map Export.symbol = ["foo_init", "foo_deinit", "foo"] := by
  have hread : (Expansion.read "name = \" foo\""
      "impl BasicUdf for Foo \x7b type Returns<'a> = i64; \x7d").toOption.any (fun e =>
        e.declaration.names.name = " foo" ∧ isPlain " foo" = false
          ∧ e.exports.map Export.symbol = ["foo_init", "foo_deinit", "foo"]) = true := by
    decide +kernel
  obtain ⟨e, he, hfacts⟩ := Except.exists_of_any hread
  exact ⟨e, he, of_decide_eq_true hfacts⟩

end Registration
end Loadable
