/-
# Groups do not leak into one another

An aggregate carries its state from group to group, and not all of it is reset by a new group: the text
that `collect_words` made last stays, and a scripted function goes on counting.  What stays is nothing
that a value shows.  `Routine.Regroups` says so of a function's code, by a relation on its states that
holds of any two once a group was begun; and every aggregate of the catalog is such a function but
`volatile`, whose value is that of the last row.

So the value of a group, or the error that it stops at, is the same after every history as right after
`init`, and as in an unused session (`Session.groups_do_not_leak`): whatever came before, a value that
was asked for, a group that was not finished or stopped at a row that does not fit, a step that failed or
ended in a panic.
-/

import Loadable.Proofs.Alike
import Loadable.Proofs.Renewal

namespace Loadable

namespace Routine

variable {σ : Type} {r : Routine σ}

/-- A function whose groups have nothing to do with one another, up to a relation on its states: a new
group relates all of them, the code respects the relation, and the value is that of the state. -/
structure Regroups (r : Routine σ) (R : σ → σ → Prop) : Prop where
  respects : r.Respects R
  byGroup : r.ByGroup R
  clears : r.Clears (fun _ _ => True) R

/-- A function that has one state for each new group, and whose value is that of the state. -/
theorem regroups_eq (hrespects : r.Respects Eq)
    (process : ∀ x c d args args' e, (r.process x c args e).Alike Eq (r.process x d args' e))
    (clear : ∀ x y c d e, (r.clear x c e).Alike Eq (r.clear y d e)) : r.Regroups Eq where
  respects := hrespects
  byGroup := by
    rintro x - rfl
    exact process x
  clears _ := clear _ _

end Routine

/-! ### The functions of the catalog -/

namespace Functions

/-- States of `collect_words` with the same words; the texts that were made last may differ. -/
def Words.Same (x y : Words) : Prop := x.words = y.words

theorem regroups_collectWords : collectWords.Regroups Words.Same := by
  have value {x y : Words} (h : x.Same y) (c d : Settings) (args args' : List Argument)
      (e : Option Code) :
      (collectWords.process x c args e).Alike Words.Same (collectWords.process y d args' e) := by
    obtain ⟨words, joined⟩ := x
    obtain ⟨words', joined'⟩ := y
    obtain rfl : words = words' := h
    dsimp only [collectWords]
    split <;> exact ⟨rfl, rfl⟩
  refine ⟨⟨fun h c d args e => value h c d args args e, fun _ _ _ _ => ⟨rfl, rfl⟩, ?_,
    fun h _ _ _ _ => ⟨rfl, h⟩⟩, value, fun _ _ _ _ => ⟨rfl, rfl⟩⟩
  intro x y h c d args e
  dsimp only [collectWords]
  cases Argument.textAt? args 0 with
  | none => exact ⟨rfl, h⟩
  | some word => exact ⟨rfl, congrArg (· ++ [word]) h⟩

end Functions

namespace Catalog

open Functions Routine

variable {outside : Outside} {f : Registered} (hf : f ∈ functions outside)
  (hgroups : f.aggregate = true)

include hf hgroups

/-- **The aggregates of the catalog** give the same whatever the settings. -/
theorem respects_of_mem (script : Script) : (f.code script).Respects Eq := by
  have hall : ∀ f ∈ aggregates, ∀ script, (f.code script).Respects Eq := by
    unfold aggregates
    simp only [List.forall_mem_append, List.forall_mem_cons, List.forall_mem_map]
    refine ⟨⟨?_, ?_, ?_, ?_, ?_, ?_, ?_, ?_, nofun⟩,
      fun f _ script => f.respects script (congrArg Nat.succ)⟩
    -- none of their code reads the settings
    all_goals
      exact fun _ => respects_eq _ (fun _ _ _ _ _ => ⟨rfl, rfl⟩) (fun _ _ _ _ => ⟨rfl, rfl⟩)
        (fun _ _ _ _ _ => ⟨rfl, rfl⟩) (fun _ _ _ _ _ => ⟨rfl, rfl⟩)
  exact hall f (mem_aggregates hf hgroups) script

/-- **The aggregates of the catalog** but `volatile` start each group anew. -/
theorem regroups_of_mem (hname : "volatile" ∉ f.names) (script : Script) :
    ∃ R, (f.code script).Regroups R := by
  have hall : ∀ f ∈ aggregates, "volatile" ∉ f.names → ∀ script, (f.code script).Respects Eq →
      ∃ R, (f.code script).Regroups R := by
    unfold aggregates
    simp only [List.forall_mem_append, List.forall_mem_cons, List.forall_mem_map]
    refine ⟨⟨?_, ?_, ?_, ?_, ?_, fun _ _ _ => ⟨_, regroups_collectWords⟩,
      fun h => absurd (List.mem_singleton_self _) h, ?_, nofun⟩, fun f _ _ script _ =>
        ⟨fun _ _ => True, f.respects script fun _ => trivial, fun _ _ _ _ _ _ => ⟨rfl, trivial⟩,
          fun _ _ _ _ => ⟨rfl, trivial⟩⟩⟩
    -- the value of the others is that of their state, which is the same for each new group
    all_goals
      exact fun _ _ h => ⟨Eq, regroups_eq h (fun _ _ _ _ _ _ => ⟨rfl, rfl⟩)
        fun _ _ _ _ _ => ⟨rfl, rfl⟩⟩
  exact hall f (mem_aggregates hf hgroups) hname script (respects_of_mem hf hgroups script)

end Catalog

/-! ### Sessions -/

namespace Session

variable {σ : Type} {s t : Session σ}

/-- **A group** comes out alike in a session that has just begun its statement and, after any history of
it, in one that began the same statement. -/
theorem Renewed.result_group {R : σ → σ → Prop} (h : Renewed s t) (hr : s.routine.Regroups R)
    (hfits : t.items.length = t.types.length) {ops : List Operation}
    (hops : ∀ op ∈ ops, op ≠ .deinit) (rows : List (List Datum)) :
    ((t.performAll ops).group rows).result = (s.group rows).result := by
  have hkept := t.kept_performAll h.initialized.2 hops
  have hroom := t.room_performAll ops
  generalize t.performAll ops = u at hkept hroom ⊢
  have hlabels : t.labels = s.labels := by rw [labels, labels, h.items]
  have hstate : t.hasState = s.hasState := by
    rw [hasState, hasState, Context.hasState, Context.hasState, h.cell]
  have hakin : s.Akin ⟨R, True, False⟩ u :=
    { routine := hkept.routine.trans h.routine
      symbols := hkept.symbols.trans h.symbols
      initialized := hkept.initialized.trans (h.initialized.2.trans h.initialized.1.symm)
      types := hkept.types.trans h.types
      labels := (hkept.labels hfits).trans hlabels
      respects := hr.respects
      items := .inl hr.byGroup
      room := hroom.trans h.room
      settings := False.elim }
  by_cases hclear : s.symbols.clear.isSome = true
  · have hcontext := Context.alike_of_hasState (hkept.hasState.trans hstate)
    have hbegin := hakin.begin h.initialized.1 hclear hcontext hr.clears
    exact (hbegin.andThen fun _ _ _ h => h.groupRest rows).result
  · rw [group, group, s.begin_refused h.initialized.1 hclear,
      u.begin_refused (hakin.initialized.trans h.initialized.1) (by rwa [hakin.symbols]), hakin.name]
    rfl

/-- **Groups do not leak into one another.**  Of every aggregate of the catalog but `volatile`, a session
that was used in any way begins a statement.  Then an unused one can begin it too; and after every
history of the statement, however its calls ended, the value of a group of rows, or the error that it
stops at, is that in the unused session right after its `init`. -/
theorem groups_do_not_leak {outside : Outside} {f : Registered} (hf : f ∈ Catalog.functions outside)
    (hgroups : f.aggregate = true) (hname : "volatile" ∉ f.names) (script : Script)
    {traced : Option Trace.Mode} {lookup : String → Option Unit} {name : String} {aggregate : Bool}
    {returns : Tag} {s : Session f.State}
    (hs : start (f.code script) traced lookup name aggregate returns = .ok s)
    (before : List Operation) {items : List Sample}
    (hinit : ((s.performAll before).init items).result = .ok ()) {ops : List Operation}
    (hops : ∀ op ∈ ops, op ≠ .deinit) (rows : List (List Datum)) :
    (s.init items).result = .ok ()
      ∧ ((((s.performAll before).init items).session.performAll ops).group rows).result
        = ((s.init items).session.group rows).result := by
  obtain ⟨changes, hrenews⟩ := Catalog.renews_of_mem hf hgroups script
  obtain ⟨R, hregroups⟩ := Catalog.regroups_of_mem hf hgroups hname script
  obtain ⟨hok, hrenewed⟩ := renewed_of_start hrenews hs hinit
  exact ⟨hok, hrenewed.result_group (routine_init hs items ▸ hregroups) (fits_init hinit) hops rows⟩

/-- A new session of `group_sum`, with all its symbols. -/
def ofGroupSum : Session Int64 :=
  { routine := Functions.groupSum, traced := none
    symbols := ⟨"group_sum", true, some (), some (), some ⟨.longlong, ()⟩, some (), some (), some ()⟩
    context := .fresh, items := [], types := [], buffer := List.replicate resultSize 0
    initialized := false, flags := .clear }

/-- A group after one that overflowed, refused a member and stopped at a row that does not fit, in a
statement that is not the first. -/
theorem groups_do_not_leak_groupSum :
    let items : List Sample := [⟨.int none, "n", true⟩]
    let t := ofGroupSum.performAll [.run items [], .init items, .process [.int (some 4)], .deinit]
    let ops : List Operation := [.begin, .add [.int (some 9223372036854775807)],
      .add [.int (some 1)], .group [[.int (some (-1))], []], .remove [.int (some 9)]]
    start Functions.groupSum none (fun _ => some ()) "group_sum" true .int = .ok ofGroupSum
      ∧ (((t.init items).session.performAll ops).group [[.int (some 2)], [.int (some 3)]]).result
        = .ok (.int 5) := by
  have hfresh : ((ofGroupSum.init [⟨.int none, "n", true⟩]).session.group
      [[.int (some 2)], [.int (some 3)]]).result = .ok (.int 5) := rfl
  intro items t ops
  have hf : Registered.grouping ["group_sum"] "GroupSum" Functions.groupSum true
      ∈ Catalog.functions default := List.mem_iff_getElem.2 ⟨16, by decide, rfl⟩
  have hs : start Functions.groupSum none (fun _ => some ()) "group_sum" true .int
      = .ok ofGroupSum := rfl
  have hname : "volatile" ∉ ["group_sum"] := by decide
  have hinit : (t.init items).result = .ok () := rfl
  have hops : ∀ op ∈ ops, op ≠ .deinit := by decide
  obtain ⟨-, hgroup⟩ := groups_do_not_leak hf rfl hname .idle hs _ hinit hops
    [[.int (some 2)], [.int (some 3)]]
  exact ⟨hs, hgroup.trans hfresh⟩

end Session
end Loadable
