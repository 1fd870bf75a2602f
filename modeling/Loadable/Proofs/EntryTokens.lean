/-
# The tokens of entries

A list of entries as tokens (`Registration.EntryTokens`, `Registration.ListTokens`): the key is a path or one
keyword, an equals sign follows, and then a literal; commas stand between entries, and one may stand behind the
last.  Such tokens are read as the entries, all of them (`Registration.listed_entries`).

A value is read twice: as a lone literal, and where a comma is behind it as an expression, of which it is the only
operand (`Source.Parser.attributeValue_value`).
-/

import Loadable.Registration.GivenNames

namespace Loadable
namespace Source
namespace Parser

variable {α β : Type} {p : Parser α} {f : α → Parser β} {c c' : Cursor} {a : α}
variable {g g' : Grammar} {t : Token} {ts w : List Token} {v : Option String}

/-! ### Steps of a parser -/

theorem bind_of (h : p c = some (a, c')) : (p >>= f) c = f a c' := by
  simp [bind, StateT.bind, h]

theorem discard_of (h : p c = some (a, c')) : (discard p : Parser PUnit) c = some ((), c') := by
  simp [discard, Functor.discard, Functor.mapConst, StateT.map, h]

theorem orElse_left {q : Parser α} (h : p c = some (a, c')) : (p <|> q) c = some (a, c') := by
  change (p c <|> q c) = _
  rw [h]
  rfl

theorem orElse_right {q : Parser α} (h : p c = none) : (p <|> q) c = q c := by
  change (p c <|> q c) = _
  rw [h]
  rfl

theorem onlyIf_false {condition : Parser Bool} (h : condition c = some (false, c')) :
    onlyIf condition p c = some (none, c') := bind_of h

theorem onlyIf_true {condition : Parser Bool} {c'' : Cursor} (h : condition c = some (true, c'))
    (hp : p c' = some (a, c'')) : onlyIf condition p c = some (some a, c'') :=
  (bind_of h).trans (bind_of hp)

theorem mark?_false {s : String} (h : startsWith s.toList c.rest = false) : mark? s c = some (false, c) := by
  have hat : atMark s c = some (false, c) := by
    rw [← h]
    rfl
  exact bind_of (onlyIf_false hat)

theorem repeated_none {step : Parser (Option α)} (h : step c = some (none, c')) :
    repeated step c = some ([], c') := by
  rw [repeated, repeatFrom, h]

theorem repeated_some {step : Parser (Option α)} {as : List α} {c'' : Cursor} (h : step c = some (some a, c'))
    (hless : c'.rest.length < c.rest.length) (hrest : repeated step c' = some (as, c'')) :
    repeated step c = some (a :: as, c'') := by
  rw [repeated] at hrest ⊢
  rw [repeatFrom, h]
  dsimp only
  rw [if_pos hless, hrest]
  rfl

/-! ### Values -/

/-- A token that is a literal, with the text that it denotes if it is a string. -/
inductive IsValue : Token → Option String → Prop
  | string (spelling s : String) : IsValue (.literal ⟨spelling, .string s⟩) (some s)
  | number (spelling : String) : IsValue (.literal ⟨spelling, .number⟩) none
  | other (spelling : String) : IsValue (.literal ⟨spelling, .other⟩) none
  | isTrue : IsValue (.word "true") none
  | isFalse : IsValue (.word "false") none

/-- What may stand behind a value: nothing, or a comma. -/
def Ended (ts : List Token) : Prop := ts = [] ∨ ∃ joint ts', ts = .mark ',' joint :: ts'

/-- No mark is a value. -/
theorem IsValue.startsWith_eq_false (h : IsValue t v) {s : List Char} (hs : s ≠ []) :
    startsWith s (t :: ts) = false := by
  cases s with
  | nil => exact absurd rfl hs
  | cons c cs => cases cs <;> cases h <;> rfl

theorem attributes_none (h : startsWith ['#'] c.rest = false) : attributes g c = some ((), c) := by
  have hat : atMark "#" c = some (false, c) := by
    rw [← h]
    rfl
  exact discard_of (repeated_none (onlyIf_false hat))

theorem trailers_ended (h : Ended ts) : trailers g ⟨ts, w⟩ = some (false, ⟨ts, w⟩) := by
  have hnone : trailer g ⟨ts, w⟩ = some (none, ⟨ts, w⟩) := by
    rcases h with rfl | ⟨joint, ts', rfl⟩ <;> rfl
  exact bind_of (repeated_none hnone)

theorem operations_ended (h : Ended ts) : operations g true .all false ⟨ts, w⟩ = some (false, ⟨ts, w⟩) := by
  have hnone : operator? ts = none := by
    rcases h with rfl | ⟨joint, ts', rfl⟩
    · decide
    · cases joint <;> rfl
  have hahead : ahead ⟨ts, w⟩ = some (ts, ⟨ts, w⟩) := rfl
  unfold operations
  rw [bind_of hahead, hnone]
  rfl

/-- The operand that a value is. -/
def operandOf : Option String → Operand
  | some s => .string s
  | none => .other

theorem atom_value (h : IsValue t v) : atom g true ⟨t :: ts, w⟩ = some (operandOf v, ⟨ts, t :: w⟩) := by
  cases h <;> rfl

theorem operand_value (h : IsValue t v) (hts : Ended ts) :
    operand g true ⟨t :: ts, w⟩ = some (operandOf v, ⟨ts, t :: w⟩) := by
  have hmark (s : String) (hs : s.toList ≠ []) : mark? s ⟨t :: ts, w⟩ = some (false, ⟨t :: ts, w⟩) :=
    mark?_false (h.startsWith_eq_false hs)
  unfold operand
  rw [bind_of (attributes_none (h.startsWith_eq_false (by decide))), bind_of (hmark "&" (by decide))]
  simp only [Bool.false_eq_true, if_false]
  rw [bind_of (hmark "*" (by decide)), bind_of (hmark "!" (by decide)), bind_of (hmark "-" (by decide))]
  simp only [Bool.or_self, Bool.false_eq_true, if_false]
  rw [bind_of (atom_value h)]
  cases v with
  | none => exact bind_of (trailers_ended hts)
  | some s => exact bind_of (trailers_ended hts)

/-- A value is the only operand of the expression that it is. -/
theorem expr_value (hoperand : g.operand = operand g') (hoperations : g.operations = operations g')
    (h : IsValue t v) (hts : Ended ts) : expr g true ⟨t :: ts, w⟩ = some (v, ⟨ts, t :: w⟩) := by
  unfold expr
  rw [hoperand, hoperations, bind_of (operand_value h hts)]
  cases v with
  | none => exact bind_of (discard_of (operations_ended hts))
  | some s => exact bind_of (operations_ended hts)

/-- **A value is read** as the text that it denotes, whether an entry follows or not. -/
theorem attributeValue_value (h : IsValue t v) (hts : Ended ts) :
    attributeValue g.deeper.deeper ⟨t :: ts, w⟩ = some (v, ⟨ts, t :: w⟩) := by
  have hexpr : g.deeper.deeper.expr true ⟨t :: ts, w⟩ = some (v, ⟨ts, t :: w⟩) := expr_value rfl rfl h hts
  unfold attributeValue
  rcases hts with rfl | ⟨joint, ts', rfl⟩
  · refine orElse_left ?_
    cases h <;> rfl
  · rw [orElse_right]
    · cases h <;> exact hexpr
    · cases h <;> rfl

/-! ### Keys -/

/-- A word that may be a part of a path. -/
def IsPart (s : String) : Prop := isKeyword s = false ∨ s ∈ pathWords

/-- The tokens of the parts of a path, each with whether two colons are behind it, as they are but for the last. -/
inductive PartTokens : List Token → List (String × Bool) → Prop
  | last {s : String} : IsPart s → PartTokens [.word s] [(s, false)]
  | cons {s : String} {joint : Bool} {ts : List Token} {ps : List (String × Bool)} : IsPart s →
    PartTokens ts ps → PartTokens (.word s :: .mark ':' true :: .mark ':' joint :: ts) ((s, true) :: ps)

/-- The path of parts without arguments. -/
def pathOf (rooted : Bool) (names : List String) : Path := ⟨rooted, names.map fun s => .mk s .none⟩

/-- The tokens of a key, which is a path or the one keyword. -/
inductive KeyTokens : List Token → Path → Prop
  | keyword : KeyTokens [.word "unsafe"] (pathOf false ["unsafe"])
  | relative {ts : List Token} {ps : List (String × Bool)} : PartTokens ts ps →
    KeyTokens ts (pathOf false (ps.map Prod.fst))
  | rooted {joint : Bool} {ts : List Token} {ps : List (String × Bool)} : PartTokens ts ps →
    KeyTokens (.mark ':' true :: .mark ':' joint :: ts) (pathOf true (ps.map Prod.fst))

/-- What stands behind a key: an equals sign and more. -/
def Assigns (ts : List Token) : Prop := ∃ joint ts', ts = .mark '=' joint :: ts'

variable {s : String} {b joint : Bool} {ps : List (String × Bool)} {pre : List Token}

theorem Assigns.colons_eq (h : Assigns ts) : colons ⟨ts, w⟩ = some (false, ⟨ts, w⟩) := by
  obtain ⟨joint, ts', rfl⟩ := h
  exact mark?_false rfl

theorem Assigns.atPathWord_eq (h : Assigns ts) : atPathWord ⟨ts, w⟩ = some (false, ⟨ts, w⟩) := by
  obtain ⟨joint, ts', rfl⟩ := h
  rfl

theorem colons_behind : colons ⟨.mark ':' true :: .mark ':' joint :: ts, w⟩
    = some (true, ⟨ts, .mark ':' joint :: .mark ':' true :: w⟩) := rfl

theorem atPathWord_part (h : IsPart s) :
    atPathWord ⟨.word s :: ts, w⟩ = some (true, ⟨.word s :: ts, w⟩) := by
  have hat : (!isKeyword s || pathWords.contains s) = true := by
    rcases h with h | h
    · rw [h]
      rfl
    · rw [List.contains_iff_mem.2 h, Bool.or_true]
  rw [← hat]
  rfl

/-- A part of a path, and whether there are colons behind it. -/
def part : Parser (String × Bool) := do
  unless ← atPathWord do failure
  return (← anyWord, ← colons)

/-- The parts that follow. -/
def parts : Parser (List (String × Bool)) := whileTrue atPathWord part

theorem plainPath_eq : plainPath = (do
    let rooted ← colons
    let first ← part
    let rest ← if first.2 then parts else pure []
    let words := first :: rest
    if words.dropLast.all (·.2) && words.getLast?.all (!·.2) then
      return ⟨rooted, words.map fun (w, _) => .mk w .none⟩
    else failure) := rfl

theorem part_of (h : IsPart s) (hcolons : colons ⟨ts, .word s :: w⟩ = some (b, c')) :
    part ⟨.word s :: ts, w⟩ = some ((s, b), c') := by
  have hword : anyWord ⟨.word s :: ts, w⟩ = some (s, ⟨ts, .word s :: w⟩) := rfl
  unfold part
  rw [bind_of (atPathWord_part h)]
  simp only [if_true]
  rw [bind_of hword, bind_of hcolons]
  rfl

/-- The parts that follow are read up to the equals sign. -/
theorem parts_of (h : PartTokens pre ps) (hts : Assigns ts) :
    parts ⟨pre ++ ts, w⟩ = some (ps, ⟨ts, pre.reverse ++ w⟩) := by
  induction h generalizing w with
  | last hs =>
    exact repeated_some (onlyIf_true (atPathWord_part hs) (part_of hs hts.colons_eq)) (Nat.lt_succ_self _)
      (repeated_none (onlyIf_false hts.atPathWord_eq))
  | cons hs _ ih =>
    simp only [List.reverse_cons, List.append_assoc, List.cons_append, List.nil_append]
    refine repeated_some (onlyIf_true (atPathWord_part hs) (part_of hs colons_behind)) ?_ ih
    simp only [List.length_cons]
    omega

/-- Every part but the last has colons behind it. -/
theorem PartTokens.flags (h : PartTokens pre ps) :
    (ps.dropLast.all (·.2) && ps.getLast?.all (!·.2)) = true := by
  induction h with
  | last => rfl
  | cons _ h ih => cases h <;> exact ih

theorem plainPath_of {rooted : Bool} (hrooted : colons c = some (rooted, ⟨pre ++ ts, w⟩))
    (h : PartTokens pre ps) (hts : Assigns ts) :
    plainPath c = some (pathOf rooted (ps.map Prod.fst), ⟨ts, pre.reverse ++ w⟩) := by
  have hend : (if ps.dropLast.all (·.2) && ps.getLast?.all (!·.2) then
      pure ⟨rooted, ps.map fun (w, _) => .mk w .none⟩ else failure : Parser Path) ⟨ts, pre.reverse ++ w⟩
      = some (pathOf rooted (ps.map Prod.fst), ⟨ts, pre.reverse ++ w⟩) := by
    rw [if_pos h.flags, pathOf, List.map_map]
    rfl
  rw [plainPath_eq, bind_of hrooted]
  cases h with
  | last hs => exact (bind_of (part_of hs hts.colons_eq)).trans hend
  | cons hs h =>
    simp only [List.reverse_cons, List.append_assoc, List.cons_append, List.nil_append] at hend ⊢
    exact (bind_of (part_of hs colons_behind)).trans ((bind_of (parts_of h hts)).trans hend)

/-- No path begins with the keyword. -/
theorem word?_of_parts (h : PartTokens pre ps) :
    word? "unsafe" ⟨pre ++ ts, w⟩ = some (false, ⟨pre ++ ts, w⟩) := by
  have hne {s : String} (hs : IsPart s) : s ≠ "unsafe" := by
    rintro rfl
    rcases hs with hs | hs <;> exact absurd hs (by decide)
  have hword {s : String} {ts : List Token} (hs : IsPart s) :
      atWord "unsafe" ⟨.word s :: ts, w⟩ = some (false, ⟨.word s :: ts, w⟩) := by
    have hfalse : decide (some (Token.word s) = some (.word "unsafe")) = false :=
      decide_eq_false (by simpa using hne hs)
    rw [← hfalse]
    rfl
  have hat : atWord "unsafe" ⟨pre ++ ts, w⟩ = some (false, ⟨pre ++ ts, w⟩) := by
    cases h with
    | last hs => exact hword hs
    | cons hs => exact hword hs
  exact bind_of (onlyIf_false hat)

/-- **A key is read** as the path that it is. -/
theorem attributePath_of {key : Path} (h : KeyTokens pre key) (hts : Assigns ts) :
    attributePath ⟨pre ++ ts, w⟩ = some (key, ⟨ts, pre.reverse ++ w⟩) := by
  cases h with
  | keyword => rfl
  | relative h =>
    have hcolons : colons ⟨pre ++ ts, w⟩ = some (false, ⟨pre ++ ts, w⟩) := by
      cases h <;> exact mark?_false rfl
    exact (bind_of (word?_of_parts h)).trans (plainPath_of hcolons h hts)
  | @rooted joint pre ps h =>
    have hword : word? "unsafe" ⟨.mark ':' true :: .mark ':' joint :: (pre ++ ts), w⟩
        = some (false, ⟨.mark ':' true :: .mark ':' joint :: (pre ++ ts), w⟩) := rfl
    simp only [List.reverse_cons, List.append_assoc, List.cons_append, List.nil_append]
    exact (bind_of hword).trans (plainPath_of colons_behind h hts)

end Parser
end Source

namespace Registration

open Source (Token Grammar Parser)
open Source.Parser

/-- The tokens of an entry. -/
inductive EntryTokens : List Token → Entry → Prop
  | mk {ts : List Token} {key : Source.Path} {joint : Bool} {t : Token} {v : Option String} : KeyTokens ts key →
    IsValue t v → EntryTokens (ts ++ [.mark '=' joint, t]) ⟨key, v⟩

/-- The tokens of entries with a comma between any two, and perhaps one behind the last. -/
inductive ListTokens : List Token → List Entry → Prop
  | nil : ListTokens [] []
  | last {ts : List Token} {e : Entry} : EntryTokens ts e → ListTokens ts [e]
  | cons {ts ts' : List Token} {e : Entry} {es : List Entry} {joint : Bool} : EntryTokens ts e →
    ListTokens ts' es → ListTokens (ts ++ .mark ',' joint :: ts') (e :: es)

variable {g : Grammar} {ts pre w : List Token} {e : Entry} {es : List Entry}

theorem EntryTokens.ne_nil (h : EntryTokens pre e) : pre ≠ [] := by
  cases h
  exact List.append_ne_nil_of_right_ne_nil _ (List.cons_ne_nil _ _)

/-- No entry begins where a list ends. -/
theorem EntryTokens.atEnd_eq (h : EntryTokens pre e) (ts w : List Token) :
    atEnd ⟨pre ++ ts, w⟩ = some (false, ⟨pre ++ ts, w⟩) := by
  cases h with
  | mk hkey _ =>
    cases hkey with
    | keyword => rfl
    | relative h => cases h <;> rfl
    | rooted _ => rfl

theorem entry_of (h : EntryTokens pre e) (hts : Ended ts) :
    entry g.deeper.deeper ⟨pre ++ ts, w⟩ = some (e, ⟨ts, pre.reverse ++ w⟩) := by
  cases h with
  | @mk pre key joint t v hkey hvalue =>
    have hmark (w : List Token) :
        mark "=" ⟨.mark '=' joint :: t :: ts, w⟩ = some ((), ⟨t :: ts, .mark '=' joint :: w⟩) := rfl
    rw [List.append_assoc, List.reverse_append, List.append_assoc]
    refine (bind_of (attributePath_of hkey ⟨joint, t :: ts, rfl⟩)).trans ?_
    exact (bind_of (hmark _)).trans (bind_of (attributeValue_value hvalue hts))

/-- An entry with whether a comma is behind it. -/
def item (g : Grammar) : Parser (Option (Entry × Bool)) := do
  if ← atEnd then return none
  let e ← entry g
  let more ← if ← atEnd then pure false else mark? ","
  return some (e, more)

theorem item_last (h : EntryTokens pre e) :
    item g.deeper.deeper ⟨pre, w⟩ = some (some (e, false), ⟨[], pre.reverse ++ w⟩) := by
  have hatEnd := h.atEnd_eq [] w
  have hentry := entry_of h (g := g) (w := w) (.inl rfl)
  rw [List.append_nil] at hatEnd hentry
  exact (bind_of hatEnd).trans ((bind_of hentry).trans rfl)

theorem item_comma {joint : Bool} (h : EntryTokens pre e) :
    item g.deeper.deeper ⟨pre ++ .mark ',' joint :: ts, w⟩
      = some (some (e, true), ⟨ts, .mark ',' joint :: (pre.reverse ++ w)⟩) :=
  (bind_of (h.atEnd_eq _ w)).trans ((bind_of (entry_of h (.inr ⟨joint, ts, rfl⟩))).trans rfl)

/-- The entries are read one after the other, and every one but the last has a comma behind it. -/
theorem items_of (h : ListTokens ts es) (w : List Token) :
    ∃ items w', repeated (item g.deeper.deeper) ⟨ts, w⟩ = some (items, ⟨[], w'⟩)
      ∧ items.map Prod.fst = es ∧ items.dropLast.all (·.2) = true := by
  induction h generalizing w with
  | nil => exact ⟨[], w, repeated_none rfl, rfl, rfl⟩
  | @last ts e h =>
    have hless : 0 < ts.length := List.length_pos_iff.2 h.ne_nil
    exact ⟨[(e, false)], _, repeated_some (item_last h) hless (repeated_none rfl), rfl, rfl⟩
  | @cons ts ts' e es joint h _ ih =>
    obtain ⟨items, w', hitems, hes, hall⟩ := ih (.mark ',' joint :: (ts.reverse ++ w))
    refine ⟨(e, true) :: items, w', repeated_some (item_comma h) ?_ hitems, by rw [List.map_cons, hes], ?_⟩
    · simp only [List.length_append, List.length_cons]
      omega
    · cases items with
      | nil => rfl
      | cons i items => exact hall

/-- **The tokens of entries are read** as the entries, all of them. -/
theorem listed_entries (h : ListTokens ts es) :
    Source.read? (fun g => Parser.listed (entry g)) ts = some es := by
  obtain ⟨items, w', hitems, hes, hall⟩ := items_of (g := .ofDepth (2 * ts.length + 6)) h []
  have hdeep : Grammar.for ts = (Grammar.ofDepth (2 * ts.length + 6)).deeper.deeper := rfl
  have hseparated : separated "," atEnd (entry (Grammar.for ts)) ⟨ts, []⟩ = some (items, ⟨[], w'⟩) := by
    rw [hdeep]
    refine (bind_of hitems).trans ?_
    rw [hall]
    rfl
  have hlisted : Parser.listed (entry (Grammar.for ts)) ⟨ts, []⟩ = some (es, ⟨[], w'⟩) := by
    rw [← hes]
    exact bind_of hseparated
  simp only [Source.read?, Parser.parse?, hlisted]
  rfl

end Registration
end Loadable
