/-
# Tallies

A group that rows are folded into and taken out of again, in any order, is a frame.  A function may keep
a tally for it, an integer that a row changes by a weight of its own; `Routine.Tallies` says that taking
the row out changes it back.  What 64 bits do not hold is refused with an error flag, so the tally is
exact as long as none is returned: after every run of steps it is the sum of the weights of the rows that
are in the frame (`Session.Frame.tallied`), whatever came and went in between.
-/

import Loadable.Proofs.Reuse
import Loadable.Proofs.Running
import Mathlib.Algebra.BigOperators.Group.Multiset.Basic

namespace Loadable

/-- A function whose state keeps a tally: nothing for a new group, and more or less by the weight of a row
that is folded in or taken out, if that ends well.  Asking for a value leaves the state alone. -/
structure Routine.Tallies {σ : Type} (r : Routine σ) (tally : σ → ℤ) (weight : List Argument → ℤ) :
    Prop where
  made : ∀ {p args x}, (r.init p args).outcome = .ok x → tally x = 0
  clear : ∀ x c e, (r.clear x c e).outcome = .ok () ∧ tally (r.clear x c e).state = 0
  add : ∀ {x c args e}, (r.add x c args e).outcome = .ok () →
    tally (r.add x c args e).state = tally x + weight args
  remove : ∀ {x c args e}, (r.remove x c args e).outcome = .ok () →
    tally (r.remove x c args e).state = tally x - weight args
  process : ∀ x c args e, (r.process x c args e).state = x

namespace Session

variable {σ : Type} {s t : Session σ} {r : Routine σ} {tally : σ → ℤ} {weight : List Argument → ℤ}

/-- **A frame:** a group is begun, and rows are folded in and taken out in any order.  Of a row that is
taken out one is in the frame; a step either succeeds, with no error in the group so far, or is refused
before anything happens.  The multiset holds the rows that are in the frame. -/
inductive Frame (s : Session σ) : Session σ → Multiset (List Datum) → Prop where
  | begun : Frame s s.begin.session 0
  | added {t : Session σ} {rows : Multiset (List Datum)} (h : Frame s t rows) (row : List Datum)
    (hflag : (t.add row).result = .ok 0) : Frame s (t.add row).session (row ::ₘ rows)
  | removed {t : Session σ} {rows : Multiset (List Datum)} (row : List Datum)
    (h : Frame s t (row ::ₘ rows)) (hflag : (t.remove row).result = .ok 0) :
    Frame s (t.remove row).session rows
  | refusedAdd {t : Session σ} {rows : Multiset (List Datum)} (h : Frame s t rows) (row : List Datum)
    {e : Report} (hrefused : (t.add row).result = .error e) : Frame s (t.add row).session rows
  | refusedRemove {t : Session σ} {rows : Multiset (List Datum)} (h : Frame s t rows)
    (row : List Datum) {e : Report} (hrefused : (t.remove row).result = .error e) :
    Frame s (t.remove row).session rows

/-- The tally of a session is as given, and no step of the group has failed. -/
structure Tallied (tally : σ → ℤ) (s : Session σ) (n : ℤ) : Prop where
  cell : ∃ cell, s.context.cell = some cell ∧ tally cell.state = n
  error : s.flags.error = 0

/-- Where no group can be begun there is nothing to tally. -/
structure Untallied (tally : σ → ℤ) (s : Session σ) : Prop extends Ungrouped s where
  empty : s.symbols.clear = none → ∀ cell, s.context.cell = some cell → tally cell.state = 0

theorem Move.untallied (hmove : Move s t) (hr : s.routine.Tallies tally weight)
    (h : s.Untallied tally) : t.Untallied tally := by
  refine ⟨hmove.ungrouped h.toUngrouped, fun hclear cell hcell => ?_⟩
  rw [hmove.symbols] at hclear
  cases hmove with
  | row row => exact h.empty hclear cell hcell
  | prepare items => exact h.empty hclear cell hcell
  | leave => exact h.empty hclear cell hcell
  | value error =>
    cases hs : s.context.cell with
    | none =>
      rw [Session.value, Context.process_unprepared _ _ _ _ _ hs] at hcell
      exact h.empty hclear cell hcell
    | some before =>
      rw [Session.value, Context.process_prepared _ _ _ _ _ hs] at hcell
      cases hcell
      exact (congrArg tally (hr.process _ _ _ _)).trans (h.empty hclear before hs)
  | step kind count hstep =>
    obtain ⟨hadd, hremove⟩ := h.steps hclear
    cases hstep with
    | clear hsome => simp [hclear] at hsome
    | add hsome => simp [hadd] at hsome
    | remove hsome => simp [hremove] at hsome
  | enter items =>
    rw [(context_entered { s with items } _).2] at hcell
    rcases Context.cell_init _ _ _ hcell with hbefore | ⟨p, hmade⟩
    · exact h.empty hclear cell hbefore
    · exact hr.made hmade
  | giveUp =>
    have hnone := s.context.hasState_deinit s.routine
    rw [Context.hasState, hcell] at hnone
    cases hnone

theorem Used.untallied (h : Used r s) (hr : r.Tallies tally weight) : s.Untallied tally := by
  obtain ⟨traced, lookup, name, aggregate, returns, fresh, ops, hfresh, rfl⟩ := h
  have hroutine := (start_fresh hfresh).1
  have hnew : fresh.Untallied tally := by
    refine ⟨ungrouped_performAll hfresh [], fun _ cell hcell => ?_⟩
    rw [(start_fresh hfresh).2.1] at hcell
    cases hcell
  refine (fresh.performAll_keeps (P := fun t => t.routine = r ∧ t.Untallied tally) ?_ ?_
    ⟨hroutine, hnew⟩).2
  · rintro s t hmove ⟨hs, huntallied⟩
    exact ⟨hmove.routine.trans hs, hmove.untallied (hs.symm ▸ hr) huntallied⟩
  · rintro change - s ⟨hs, huntallied⟩
    exact ⟨hs, ⟨⟨huntallied.steps, huntallied.error⟩, huntallied.empty⟩⟩

/-! #### One step -/

/-- A group begins with an empty tally. -/
theorem tallied_begin (hr : r.Tallies tally weight) (hroutine : s.routine = r)
    (hinit : s.initialized = true) (hstate : s.hasState = true) (huntallied : s.Untallied tally) :
    s.begin.session.Tallied tally 0 := by
  subst hroutine
  obtain ⟨cell, hcell⟩ := Option.isSome_iff_exists.1 hstate
  by_cases hclear : s.symbols.clear.isSome = true
  · obtain ⟨hok, hempty⟩ := hr.clear cell.state s.context.settings none
    have hfailure : s.failure? .begin = none := by
      rw [failure?, Context.failure?, hcell]
      exact congrArg Outcome.failure? hok
    refine ⟨?_, by rw [(s.error_begin hinit hclear).2, hfailure]; rfl⟩
    rw [s.begin_called hinit hclear]
    exact ⟨_, s.context.cell_stepWith .clear _ _ hcell, hempty⟩
  · have hnone : s.symbols.clear = none := by simpa using hclear
    rw [s.begin_refused hinit hclear]
    exact ⟨⟨cell, hcell, huntallied.empty hnone cell hcell⟩, huntallied.error hnone⟩

/-- A step of a group that gives no error has changed the tally as its code does. -/
theorem Tallied.stepped {n d : ℤ} (h : s.Tallied tally n) {kind : CallbackKind} {count : Option Nat}
    {part : Stage} {code : σ → Option Code → Run σ Code Unit}
    (hcode : ∀ x e, (code x e).outcome = .ok () → tally (code x e).state = tally x + d)
    (hflag : (s.stepped kind count
      (Context.stepWith part code s.context s.flags.toFlags)).result = .ok 0) :
    (s.stepped kind count
      (Context.stepWith part code s.context s.flags.toFlags)).session.Tallied tally (n + d) := by
  obtain ⟨hresult, herror⟩ := s.stepped_stepWith kind count part code s.flags
  have hzero : (Context.failure? code s.context s.flags.toFlags).getD s.flags.error = 0 :=
    Except.ok.inj (hresult.symm.trans hflag)
  have hnone : Context.failure? code s.context s.flags.toFlags = none := by
    cases hfailure : Context.failure? code s.context s.flags.toFlags with
    | none => rfl
    | some b =>
      rw [hfailure] at hzero
      exact absurd (hfailure.trans (congrArg some hzero)) (Context.failure?_ne_zero _ _ _)
  obtain ⟨cell, hcell, hok⟩ := Context.exists_of_failure?_eq_none _ _ _ hnone
  obtain ⟨cell', hcell', htally⟩ := h.cell
  obtain rfl := Option.some.inj (hcell'.symm.trans hcell)
  refine ⟨⟨_, s.context.cell_stepWith part code _ hcell, ?_⟩, herror.trans hzero⟩
  rw [hcode _ _ hok, htally]

/-- So has a step with a row, which was accepted then. -/
theorem Tallied.rowStep {n d : ℤ} (h : s.Tallied tally n) {symbol : Option Unit} {missing : Misuse}
    {row : List Datum} {call : Session σ → StepReply σ} {part : Stage}
    {code : σ → Option Code → Run σ Code Unit}
    (hcall : call (s.withRow row) = Context.stepWith part code s.context s.flags.toFlags)
    (hcode : ∀ x e, (code x e).outcome = .ok () → tally (code x e).state = tally x + d)
    (hflag : (s.rowStep symbol missing call row).result = .ok 0) :
    s.accepts row = true ∧ (s.rowStep symbol missing call row).session.Tallied tally (n + d) := by
  by_cases hrow : (s.accepts row && symbol.isSome) = true
  · obtain ⟨haccepts, hsymbol⟩ := Bool.and_eq_true_iff.1 hrow
    rw [rowStep_accepted missing call haccepts hsymbol, hcall] at hflag ⊢
    have hlaid : (s.withRow row).Tallied tally n := ⟨h.cell, h.error⟩
    exact ⟨haccepts, hlaid.stepped hcode hflag⟩
  · obtain ⟨m, hm⟩ := rowStep_refused missing call hrow
    rw [hm] at hflag
    cases hflag

theorem Tallied.add (hr : s.routine.Tallies tally weight) {n : ℤ} (h : s.Tallied tally n)
    {row : List Datum} (hflag : (s.add row).result = .ok 0) :
    s.accepts row = true ∧ (s.add row).session.Tallied tally (n + weight (s.laidOut row)) :=
  h.rowStep rfl (fun _ _ => hr.add) hflag

theorem Tallied.remove (hr : s.routine.Tallies tally weight) {n : ℤ} (h : s.Tallied tally n)
    {row : List Datum} (hflag : (s.remove row).result = .ok 0) :
    s.accepts row = true ∧ (s.remove row).session.Tallied tally (n - weight (s.laidOut row)) :=
  h.rowStep rfl (fun _ _ => hr.remove) hflag

/-! #### Whole frames -/

/-- Whatever is in a frame, its statement is still running. -/
theorem Frame.kept {rows : Multiset (List Datum)} (h : Frame s t rows) : Kept s t := by
  induction h with
  | begun => exact s.kept_begin
  | added _ row _ ih => exact ih.trans (kept_add _ row)
  | removed row _ _ ih => exact ih.trans (kept_remove _ row)
  | refusedAdd _ row _ ih => exact ih.trans (kept_add _ row)
  | refusedRemove _ row _ ih => exact ih.trans (kept_remove _ row)

/-- **The tally of a frame** is the sum of the weights of its rows. -/
theorem Frame.tallied {rows : Multiset (List Datum)} (h : Frame s t rows) (hused : Used r s)
    (hr : r.Tallies tally weight) (hinit : s.initialized = true)
    (hsome : s.symbols.init.isSome = true) :
    (∀ row ∈ rows, s.accepts row = true)
      ∧ t.Tallied tally (rows.map fun row => weight (s.laidOut row)).sum := by
  obtain ⟨hroutine, hlen, hstate⟩ := hused.running hinit
  have huntallied := hused.untallied hr
  subst hroutine
  induction h with
  | begun =>
    refine ⟨fun row hrow => absurd hrow (Multiset.notMem_zero row), ?_⟩
    exact tallied_begin hr rfl hinit (hstate hsome).1 huntallied
  | @added t rows h row hflag ih =>
    obtain ⟨haccepts, htallied⟩ := ih
    obtain ⟨hrow, hadd⟩ := Tallied.add (h.kept.routine ▸ hr) htallied hflag
    rw [accepts_of_kept s h.kept] at hrow
    rw [laidOut_of_kept s h.kept hlen, add_comm] at hadd
    refine ⟨fun row' hmem => ?_, by rwa [Multiset.map_cons, Multiset.sum_cons]⟩
    rcases Multiset.mem_cons.1 hmem with rfl | hmem
    · exact hrow
    · exact haccepts row' hmem
  | @removed t rows row h hflag ih =>
    obtain ⟨haccepts, htallied⟩ := ih
    obtain ⟨-, hremove⟩ := Tallied.remove (h.kept.routine ▸ hr) htallied hflag
    rw [laidOut_of_kept s h.kept hlen, Multiset.map_cons, Multiset.sum_cons,
      add_sub_cancel_left] at hremove
    exact ⟨fun row' hmem => haccepts row' (Multiset.mem_cons_of_mem hmem), hremove⟩
  | refusedAdd _ row hrefused ih => rwa [Session.add, session_of_refused _ _ hrefused]
  | refusedRemove _ row hrefused ih => rwa [Session.remove, session_of_refused _ _ hrefused]

end Session

end Loadable
