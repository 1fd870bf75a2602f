/-
# Sessions used again

A session that was used for any statements begins another as an unused one would: `init` makes the state
and the arguments anew (`renewed_of_start`), and an aggregate gives the same whatever the settings
(`Catalog.respects_of_mem`).  So all that follows is seen alike (`Session.reused_as_new`), with two
reservations, and both are needed (`Session.reused_not_as_new`).

The error flag of the last group stays until a group is begun: it is told to a step or a value that is
asked for before that.  And settings that were changed from outside stay where the function does not set
them itself.
-/

import Loadable.Proofs.GroupIndependence
import Loadable.Proofs.UsableSymbols

namespace Loadable

/-- What is resolved without a symbol to begin groups has none for their steps either. -/
theorem Symbols.steps_of_resolve {α : Type} {lookup : String → Option α} {name : String}
    {aggregate : Bool} {returns : Tag} {symbols : Symbols α}
    (h : (resolve lookup name aggregate returns).2 = .ok symbols) (hclear : symbols.clear = none) :
    symbols.add = none ∧ symbols.remove = none := by
  obtain ⟨haccepts, hgathered, -⟩ := of_resolve lookup name aggregate h
  cases aggregate with
  | false => exact (hgathered.ungrouped rfl).2
  | true =>
    -- an aggregate has one
    have hsome := (hgathered.grouped rfl).1.isSome_iff.2 (haccepts.clear rfl)
    simp [hclear] at hsome

namespace Session

variable {σ : Type} {s t : Session σ}

/-- Where no group can be begun no step of one can be taken, and the error flag is unset. -/
structure Ungrouped (s : Session σ) : Prop where
  steps : s.symbols.clear = none → s.symbols.add = none ∧ s.symbols.remove = none
  error : s.symbols.clear = none → s.flags.error = 0

theorem Move.ungrouped (hmove : Move s t) (h : s.Ungrouped) : t.Ungrouped := by
  have hkept (hflags : t.flags = s.flags) : t.Ungrouped := by
    refine ⟨?_, ?_⟩
    · rw [hmove.symbols]
      exact h.steps
    · rw [hmove.symbols, hflags]
      exact h.error
  cases hmove with
  | row row => exact hkept rfl
  | value error => exact hkept rfl
  | prepare items => exact hkept rfl
  | leave => exact hkept rfl
  | giveUp => exact hkept rfl
  | enter items => exact hkept (symbols_entered { s with items } _).2
  | step kind count hstep =>
    refine ⟨h.steps, fun (hclear : s.symbols.clear = none) => ?_⟩
    obtain ⟨hadd, hremove⟩ := h.steps hclear
    cases hstep with
    | clear hsome => simp [hclear] at hsome
    | add hsome => simp [hadd] at hsome
    | remove hsome => simp [hremove] at hsome

theorem flags_init (items : List Sample) : (s.init items).session.flags = s.flags := by
  unfold init
  split
  · rfl
  · dsimp only
    split
    · rfl
    · exact (symbols_entered { s with items } _).2

/-- Sessions that begin a statement in the same state are alike, but for a flag and settings from before. -/
theorem Renewed.alike (h : Renewed s t) (hr : s.routine.Respects Eq) :
    s.Alike ⟨Eq, t.flags.error = s.flags.error, t.context.settings = s.context.settings⟩ t where
  routine := h.routine
  symbols := h.symbols
  initialized := h.initialized.2.trans h.initialized.1.symm
  types := h.types
  labels := by rw [labels, labels, h.items]
  respects := hr
  items := .inr h.items
  room := h.room
  settings := id
  context := by
    unfold Context.Alike
    rw [h.cell]
    cases s.context.cell with
    | none => exact .none
    | some cell => exact .some rfl
  error hflag _ := hflag

section Start

variable {r : Routine σ} {traced : Option Trace.Mode} {lookup : String → Option Unit} {name : String}
  {aggregate : Bool} {returns : Tag} (hs : start r traced lookup name aggregate returns = .ok s)
  {changes : List Settings.Change} (hr : r.Renews changes) {before : List Operation}
  {items : List Sample} (hinit : ((s.performAll before).init items).result = .ok ())

include hs

theorem ungrouped_performAll (before : List Operation) : (s.performAll before).Ungrouped := by
  obtain ⟨symbols, hsymbols, rfl⟩ := start_eq hs
  refine performAll_keeps _ (fun _ _ hmove => hmove.ungrouped) (fun _ _ _ h => ⟨h.steps, h.error⟩) ?_
  exact ⟨Symbols.steps_of_resolve hsymbols, fun _ => rfl⟩

include hr

/-- The settings of a used session are made anew by its `init`, unless they were changed from outside. -/
theorem settled_performAll (h : ∀ change, .configure change ∉ before) :
    (s.performAll before).Settled changes := by
  obtain ⟨symbols, -, rfl⟩ := start_eq hs
  have hnew : Settled changes ⟨r, traced, symbols, .fresh, [], [], List.replicate resultSize 0,
      false, .clear⟩ := ⟨fun _ => rfl, rfl⟩
  exact (performAll_keeps _ (P := fun t => t.routine.Renews changes ∧ t.Settled changes)
    (fun t u hmove ht => ⟨hmove.routine ▸ ht.1, hmove.settled ht.1 ht.2⟩)
    (fun change hmem => absurd hmem (h change)) ⟨hr, hnew⟩).2

include hinit

/-- The settings after `init` are those in an unused session. -/
theorem settings_of_start (h : ∀ change, .configure change ∉ before) :
    ((s.performAll before).init items).session.context.settings
      = (s.init items).session.context.settings := by
  have hused := settled_performAll hs hr h
  have hnone : ∀ change, Operation.configure change ∉ [] := nofun
  have hnew : s.Settled changes := settled_performAll hs hr hnone
  have hok := (renewed_of_start hr hs hinit).1
  have hsr : s.routine.Renews changes := (start_fresh hs).1 ▸ hr
  have hroutine := s.routine_performAll before
  rw [settings_init hsr hnew hok, settings_init (hroutine ▸ hsr) hused hinit, hroutine,
    symbols_performAll]

/-- The error flag after `init` is that in an unused session if it was unset before.  It was, unless groups
can be begun. -/
theorem error_of_start :
    ((s.performAll before).flags.error = 0
        → ((s.performAll before).init items).session.flags.error
          = (s.init items).session.flags.error)
      ∧ ((s.performAll before).flags.error = 0
        ∨ (s.init items).session.symbols.clear.isSome = true) := by
  have hok := (renewed_of_start hr hs hinit).1
  have hzero : s.flags.error = 0 := by
    obtain ⟨symbols, -, rfl⟩ := start_eq hs
    rfl
  refine ⟨fun h => by rw [flags_init, flags_init, hzero, h], ?_⟩
  have hsymbols : (s.init items).session.symbols = s.symbols := s.symbols_performAll [.init items]
  rw [hsymbols]
  cases hclear : s.symbols.clear with
  | none =>
    refine .inl ((ungrouped_performAll hs before).error ?_)
    rw [symbols_performAll, hclear]
  | some a => exact .inr rfl

end Start

/-- **A used session begins as a new one.**  An aggregate of the catalog was used for any history, and
begins another statement.  Then all operations that follow until the next one are seen as in an unused
session that begins the same statement: their results, and after each the types of the arguments,
whether there is a state, and also the settings if none was changed from outside.  If the history left
an error flag, no step and no value of a group may be asked for before a group is begun. -/
theorem reused_as_new {outside : Outside} {f : Registered} (hf : f ∈ Catalog.functions outside)
    (hgroups : f.aggregate = true) (script : Script) {traced : Option Trace.Mode}
    {lookup : String → Option Unit} {name : String}
    {aggregate : Bool} {returns : Tag} {s : Session f.State}
    (hs : start (f.code script) traced lookup name aggregate returns = .ok s)
    (before : List Operation) {items : List Sample}
    (hinit : ((s.performAll before).init items).result = .ok ()) {ops : List Operation}
    (hops : ∀ op ∈ ops, op.opens = false)
    (hflag : (s.performAll before).flags.error = 0 ∨ Operation.BegunFirst ops) :
    let used := (s.performAll before).transcript (.init items :: ops)
    let new := s.transcript (.init items :: ops)
    used.map Showing.plain = new.map Showing.plain
      ∧ ((∀ change, .configure change ∉ before) → used = new) := by
  obtain ⟨changes, hrenews⟩ := Catalog.renews_of_mem hf hgroups script
  obtain ⟨hok, hrenewed⟩ := renewed_of_start hrenews hs hinit
  obtain ⟨herror, hbegins⟩ := error_of_start hs hrenews hinit
  have hsettings := settings_of_start hs hrenews hinit
  generalize s.performAll before = t at *
  have halike := hrenewed.alike
    (routine_init hs items ▸ Catalog.respects_of_mem hf hgroups script)
  obtain ⟨hplains, hshowns⟩ := halike.transcript (hbegins.imp_left herror) hops
    (hflag.imp_left herror)
  have hreply : Reply.Alike _ (s.reply (.init items)) (t.reply (.init items)) :=
    ⟨halike, congrArg (Except.map fun _ => Yield.nothing) (hinit.trans hok.symm)⟩
  obtain ⟨hplain, hshown⟩ := Alike.showing hreply
  rw [transcript, transcript]
  dsimp only
  rw [List.map_cons, List.map_cons, hplain]
  refine ⟨congrArg _ hplains, fun hconf => ?_⟩
  rw [hshown (hsettings hconf)]
  exact congrArg _ (hshowns (hsettings hconf))

/-- A sum used again after its last group failed, where a group is begun first. -/
theorem reused_as_new_groupSum :
    let items : List Sample := [⟨.int none, "n", true⟩]
    let before : List Operation := [.init items, .begin, .add [.int (some (-1))], .deinit]
    let ops : List Operation := [.process [.int (some 2)], .begin, .add [.int (some 2)], .finish,
      .deinit, .finish]
    start Functions.groupSum none (fun _ => some ()) "group_sum" true .int = .ok ofGroupSum
      ∧ (ofGroupSum.performAll before).flags.error = 3
      ∧ (ofGroupSum.performAll before).transcript (.init items :: ops)
        = ofGroupSum.transcript (.init items :: ops) := by
  intro items before ops
  have hf : Registered.grouping ["group_sum"] "GroupSum" Functions.groupSum true
      ∈ Catalog.functions default := List.mem_iff_getElem.2 ⟨16, by decide, rfl⟩
  have hs : start Functions.groupSum none (fun _ => some ()) "group_sum" true .int
      = .ok ofGroupSum := rfl
  have hinit : ((ofGroupSum.performAll before).init items).result = .ok () := rfl
  have hops : ∀ op ∈ ops, op.opens = false := by decide
  have hbegun : Operation.BegunFirst ops := by decide
  have hconf : ∀ change, .configure change ∉ before := by simp [before]
  exact ⟨hs, rfl, (reused_as_new hf rfl .idle hs before hinit hops (.inr hbegun)).2 hconf⟩

/-- **Both reservations are needed.**  A sum whose last group failed was ended, and begun again with the
same argument: a value that is asked for before a group is begun is an error, and not zero as of an
unused session.  And settings that were changed from outside are there after the next `init`, which
does not set them. -/
theorem reused_not_as_new :
    let items : List Sample := [⟨.int none, "n", true⟩]
    let failed := ofGroupSum.performAll [.init items, .begin, .add [.int (some (-1))]]
    let changed := ofGroupSum.performAll [.init items, .configure (.maxLength 7)]
    start Functions.groupSum none (fun _ => some ()) "group_sum" true .int = .ok ofGroupSum
      ∧ (failed.deinit.result = .ok () ∧ (failed.deinit.session.init items).result = .ok ()
        ∧ (failed.deinit.session.init items).session.finish.result = .ok .error
        ∧ (ofGroupSum.init items).session.finish.result = .ok (.int 0))
      ∧ (changed.deinit.result = .ok () ∧ (changed.deinit.session.init items).result = .ok ()
        ∧ (changed.deinit.session.init items).session.context.settings.maxLength = 7
        ∧ (ofGroupSum.init items).session.context.settings.maxLength = 0) := by
  exact ⟨rfl, ⟨rfl, rfl, rfl, rfl⟩, ⟨rfl, rfl, rfl, rfl⟩⟩

end Session
end Loadable
