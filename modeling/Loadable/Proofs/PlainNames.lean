/-
# Plain names

The symbols of a function are its name with endings, and each is what that text reads as: the word in it, if
it is one between what is skipped (`identifier?_eq_some_iff`).  A name of ASCII letters, digits and
underscores that no digit begins is plain (`isPlain`): it is a word, with an ending it is plain again, and
what it reads as, if it is an identifier at all, is the text itself (`symbolName_of_isPlain`).
-/

import Loadable.Proofs.Skipping
import Loadable.Registration.SymbolName

namespace Loadable
namespace Registration

open Source (Word Skips afterOrderMark isKeyword)

/-- **A text reads as an identifier** just if it is a word, no keyword, between what is skipped. -/
theorem identifier?_eq_some_iff {text w : String} : identifier? text = some w ↔
    isKeyword w = false ∧ ∃ rest, Word w.toList
      ∧ Skips (afterOrderMark text.toList) (w.toList ++ rest) ∧ Skips rest [] := by
  rw [← Source.tokens?_eq_word_iff]
  unfold identifier?
  constructor
  · intro h
    split at h
    case h_1 w' hread =>
      obtain ⟨hkeyword, h⟩ := Option.ite_none_left_eq_some.1 h
      obtain rfl := Option.some.inj h
      exact ⟨Bool.eq_false_iff.2 hkeyword, hread⟩
    case h_2 => cases h
  · rintro ⟨hkeyword, hread⟩
    rw [hread]
    dsimp only
    rw [hkeyword]
    rfl

theorem symbolName_eq_ok_iff {name ending s : String} :
    symbolName name ending = .ok s ↔ identifier? (name ++ ending) = some s := by
  unfold symbolName
  cases identifier? (name ++ ending) with
  | none => exact ⟨nofun, nofun⟩
  | some s' =>
    constructor
    · rintro ⟨⟩
      rfl
    · rintro ⟨⟩
      rfl

/-- A plain name: ASCII letters, digits and underscores, of which no digit comes first. -/
def isPlain (s : String) : Bool :=
  match s.toList with
  | [] => false
  | c :: cs => Text.isPlainStart c && cs.all Text.isPlainPart

theorem exists_of_isPlain {s : String} (h : isPlain s = true) : ∃ c cs, s.toList = c :: cs
    ∧ Text.isPlainStart c = true ∧ cs.all Text.isPlainPart = true := by
  unfold isPlain at h
  cases hs : s.toList with
  | nil => simp [hs] at h
  | cons c cs =>
    rw [hs] at h
    exact ⟨c, cs, rfl, Bool.and_eq_true_iff.1 h⟩

/-- A plain name with more plain characters is plain. -/
theorem isPlain_append {name ending : String} (h : isPlain name = true)
    (hending : ending.toList.all Text.isPlainPart = true) : isPlain (name ++ ending) = true := by
  obtain ⟨c, cs, hname, hc, hcs⟩ := exists_of_isPlain h
  rw [isPlain, String.toList_append, hname]
  dsimp only [List.cons_append]
  rw [hc, List.all_append, hcs, hending]
  rfl

/-- A plain name is a word. -/
theorem word_of_isPlain {s : String} (h : isPlain s = true) : Word s.toList := by
  obtain ⟨c, cs, hs, hc, hcs⟩ := exists_of_isPlain h
  rw [hs]
  exact .plain (Text.isIdentifierStart_of_isPlainStart hc) fun d hd =>
    Text.isIdentifierPart_of_isPlainPart (List.all_eq_true.1 hcs d hd)

/-- No byte order mark begins a plain name. -/
theorem afterOrderMark_of_isPlain {s : String} (h : isPlain s = true) :
    afterOrderMark s.toList = s.toList := by
  obtain ⟨c, cs, hs, hc, -⟩ := exists_of_isPlain h
  rw [hs]
  refine Source.afterOrderMark_cons ?_
  rintro rfl
  exact absurd hc (by decide)

/-- A plain name that reads as an identifier reads as itself. -/
theorem identifier?_of_isPlain {s w : String} (h : isPlain s = true)
    (hw : identifier? s = some w) : w = s := by
  obtain ⟨-, rest, hword, htext, hrest⟩ := identifier?_eq_some_iff.1 hw
  have hs := word_of_isPlain h
  have hself : Source.word? (s.toList ++ []) = some (s.toList, []) := hs.word?_append nofun
  rw [afterOrderMark_of_isPlain h, ← List.append_nil s.toList] at htext
  rw [← htext.unique .refl hword.solid_append hs.solid_append,
    hword.word?_append (hrest.stops Source.stops_nil)] at hself
  exact String.toList_inj.1 (Prod.mk.inj (Option.some.inj hself)).1

/-- **The symbol of a plain name** with an ending is the name with the ending. -/
theorem symbolName_of_isPlain {name ending symbol : String} (h : isPlain name = true)
    (hending : ending.toList.all Text.isPlainPart = true)
    (hsymbol : symbolName name ending = .ok symbol) : symbol = name ++ ending := by
  unfold symbolName at hsymbol
  split at hsymbol
  case h_1 s hs =>
    obtain rfl := Except.ok.inj hsymbol
    exact identifier?_of_isPlain (isPlain_append h hending) hs
  case h_2 => cases hsymbol

end Registration
end Loadable
