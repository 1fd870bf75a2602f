/-
# Groups that are asked for their value

The value of a group may be asked for at any time, and more than once.  A call for it changes what the
server's buffer holds and what is kept beside the state, and may change the state; of all this nothing
is seen again, if the function's code is `Routine.Undisturbed`.

`Session.Twin` relates a session to one that was asked in between.  It is kept by every operation in
both, also where a statement is ended and another begun (`Twin.perform`), and by one more request in the
second alone (`Twin.asked`).  So a history with such requests at any places is seen, but for them, as the
one without (`Session.asking_disturbs_nothing`).
-/

import Loadable.Proofs.Reuse
import Loadable.Proofs.Undisturbed
import Mathlib.Data.List.ReduceOption

namespace Loadable

/-! ### A statement is begun -/

namespace Context

variable {σ : Type} {R : σ → σ → Prop} {c d : Context σ} {r r' : Routine σ} {args : List Argument}

/-- **`init`** in contexts with the same settings ends alike. -/
theorem Alike.init (h : c.Alike R d) (hsettings : d.settings = c.settings) (hrefl : ∀ x, R x x)
    (hroutine : r' = r) (args : List Argument) :
    (c.init r args).context.Alike R (d.init r' args).context
      ∧ (d.init r' args).context.settings = (c.init r args).context.settings
      ∧ (d.init r' args).args = (c.init r args).args
      ∧ (d.init r' args).message = (c.init r args).message := by
  subst hroutine
  have hpreparation : d.preparation r' args = c.preparation r' args := by
    rw [preparation_eq, preparation_eq, hsettings]
  unfold Context.init
  cases Argument.typeError? args with
  | some e => exact ⟨h, hsettings, rfl, rfl⟩
  | none =>
    dsimp only
    rw [hpreparation]
    unfold initWith
    cases (r'.init (c.preparation r' args) args).outcome with
    | ok state => exact ⟨.some (hrefl state), rfl, rfl, rfl⟩
    | err text => exact ⟨h, rfl, rfl, rfl⟩
    | panic p => exact ⟨h, rfl, rfl, rfl⟩

/-- A call for a value in the second of two contexts leaves them alike, if its code does. -/
theorem Alike.asked (h : c.Alike R d)
    (hcode : ∀ {x y}, R x y → ∀ s args e, R x (r.process y s args e).state) (flags : Flags)
    (area : ResultArea) : c.Alike R (d.process r args flags area).context := by
  obtain ⟨hc, hd⟩ | ⟨a, b, hc, hd, hstates⟩ := h.cases
  · rw [process_unprepared _ _ _ _ _ hd]
    exact alike_of_none hc hd
  · rw [process_prepared _ _ _ _ _ hd, Alike, hc]
    exact .some (hcode hstates _ _ _)

end Context

theorem Reply.Alike.attempt {σ α : Type} {l : Likeness σ} {r r' : Reply σ α} (h : r.Alike l r') :
    r.attempt.Alike l r'.attempt := ⟨h.session, congrArg Except.ok h.result⟩

/-- Flags that no operation touches stay over both of two. -/
theorem Reply.flags_andThen {σ α β : Type} {flags : GroupFlags} {r : Reply σ α}
    {next : α → Session σ → Reply σ β} (h : r.session.flags = flags)
    (hnext : ∀ a t, (next a t).session.flags = t.flags) : (r.andThen next).session.flags = flags :=
  Reply.session_andThen (P := fun t => t.flags = flags) h fun a t ht => (hnext a t).trans ht

namespace Session

variable {σ : Type} {l : Likeness σ} {s t : Session σ}

/-- `init` calls nothing, if there is nothing to call. -/
theorem init_prepared (h : s.initialized = false) (hsym : s.symbols.init = none)
    (items : List Sample) :
    s.init items = ({ s with items }.prepared (Samples.ownTypes items)).done () := by
  rw [init, if_neg (Bool.eq_false_iff.1 h)]
  dsimp only
  rw [hsym]
  rfl

namespace Alike

/-- Accepting the same types for the same arguments leaves sessions alike. -/
theorem prepared (h : s.Alike l t) (hflag : t.flags.error = s.flags.error) {c d : Context σ}
    (hcontext : c.Alike l.states d) (hsettings : d.settings = c.settings) (items : List Sample)
    (types : List SqlType) :
    ({ s with items, context := c }.prepared types).Alike l
      ({ t with items, context := d }.prepared types) :=
  { h with
    initialized := rfl
    types := rfl
    labels := rfl
    items := .inr rfl
    context := hcontext
    settings := fun _ => hsettings
    error := fun _ _ => hflag }

/-- So does the function's own `init`, if it ends alike. -/
theorem entered (h : s.Alike l t) (hflag : t.flags.error = s.flags.error)
    {reply reply' : InitReply σ} (hcontext : reply.context.Alike l.states reply'.context)
    (hsettings : reply'.context.settings = reply.context.settings) (hargs : reply'.args = reply.args)
    (hmessage : reply'.message = reply.message) (items : List Sample) :
    Reply.Alike l ({ s with items }.entered reply) ({ t with items }.entered reply') := by
  unfold Session.entered
  dsimp only
  rw [hmessage, hargs]
  cases reply.message with
  | none => exact ⟨h.prepared hflag hcontext hsettings items _, rfl⟩
  | some m =>
    exact ⟨{ h with
      labels := rfl
      items := .inr rfl
      context := hcontext
      settings := fun _ => hsettings
      error := fun _ _ => hflag }, congrArg (fun n => Except.error (initFailure n m)) h.name⟩

/-- A statement is begun alike, if the settings are the same. -/
theorem init (h : s.Alike l t) (hsettings : l.settings) (hrefl : ∀ x, l.states x x)
    (hflag : t.flags.error = s.flags.error) (items : List Sample) :
    Reply.Alike l (s.init items) (t.init items) := by
  by_cases hinit : s.initialized = true
  · rw [Session.init, if_pos hinit, Session.init, if_pos (h.initialized.trans hinit), h.name]
    exact h.refuse _
  have hs := Bool.eq_false_iff.2 hinit
  have ht := h.initialized.trans hs
  cases hsym : s.symbols.init with
  | none =>
    rw [s.init_prepared hs hsym, t.init_prepared ht (h.symbols ▸ hsym)]
    exact ⟨h.prepared hflag h.context (h.settings hsettings) items _, rfl⟩
  | some a =>
    have hsome : s.symbols.init.isSome = true := hsym ▸ rfl
    rw [s.init_called hs hsome, t.init_called ht (h.symbols ▸ hsome)]
    obtain ⟨hcontext, hsame, hargs, hmessage⟩ :=
      h.context.init (h.settings hsettings) hrefl h.routine (items.map Sample.place)
    exact h.entered hflag hcontext hsame hargs hmessage items

theorem processAll (h : s.Alike l t) (rows : List (List Datum)) :
    Reply.Alike l (s.processAll rows) (t.processAll rows) := by
  induction rows generalizing s t with
  | nil => exact h.done []
  | cons row rows ih =>
    refine (h.process row).andThen fun _ _ _ h => ?_
    exact (ih h).andThen fun _ _ _ h => h.done _

/-- A whole statement. -/
theorem run (h : s.Alike l t) (hsettings : l.settings) (hrefl : ∀ x, l.states x x)
    (hflag : t.flags.error = s.flags.error) (items : List Sample) (rows : List (List Datum)) :
    Reply.Alike l (s.run items rows) (t.run items rows) := by
  refine (h.init hsettings hrefl hflag items).andThen fun _ _ _ h => ?_
  refine (h.processAll rows).attempt.andThen fun _ _ _ h => ?_
  exact h.deinit.andThen fun _ _ _ h => ⟨h, rfl⟩

end Alike

/-! ### The flags while no statement is running -/

theorem flags_processAll (rows : List (List Datum)) :
    (s.processAll rows).session.flags = s.flags := by
  induction rows generalizing s with
  | nil => rfl
  | cons row rows ih =>
    refine Reply.flags_andThen s.flags_process fun _ t => ?_
    exact Reply.flags_andThen ih fun _ _ => rfl

theorem flags_surprises (index : Nat) (rows : List (List Datum × Output)) :
    (s.surprises index rows).session.flags = s.flags := by
  induction rows generalizing s index with
  | nil => rfl
  | cons row rows ih =>
    refine Reply.flags_andThen s.flags_process fun _ t => ?_
    exact Reply.flags_andThen (ih _) fun _ _ => rfl

theorem flags_deinit : s.deinit.session.flags = s.flags := by
  rw [deinit, whenInitialized]
  split
  · dsimp only
    split <;> rfl
  · rfl

theorem flags_run (items : List Sample) (rows : List (List Datum)) :
    (s.run items rows).session.flags = s.flags := by
  refine Reply.flags_andThen (s.flags_init items) fun _ t => ?_
  refine Reply.flags_andThen (t.flags_processAll rows) fun _ u => ?_
  exact Reply.flags_andThen u.flags_deinit fun _ _ => rfl

/-- While no statement is running, the flags of the last group stay. -/
theorem flags_perform (op : Operation) (h : (s.perform op).initialized = false) :
    (s.perform op).flags = s.flags := by
  by_cases hwithin : op.within = true
  · have hs : s.initialized = false := (s.kept_perform hwithin).initialized.symm.trans h
    have hrow (row : List Datum) : s.accepts row = false := by rw [accepts, hs, Bool.false_and]
    cases op with
    | process row => exact s.flags_process
    | begin => rw [perform, begin, s.whenInitialized_refused hs]; rfl
    | add row =>
      obtain ⟨m, hm⟩ : ∃ m, s.add row = s.refuse m := rowStep_refused _ _ (by simp [hrow row])
      rw [perform, hm]
      rfl
    | remove row =>
      obtain ⟨m, hm⟩ : ∃ m, s.remove row = s.refuse m := rowStep_refused _ _ (by simp [hrow row])
      rw [perform, hm]
      rfl
    | finish => rw [perform, finish, s.whenInitialized_refused hs]; rfl
    | group rows => rw [perform, group, begin, s.whenInitialized_refused hs]; rfl
    | expect rows expected =>
      rw [perform, expect]
      split
      · rfl
      · refine Reply.flags_andThen (s.flags_surprises 0 _) fun _ t => ?_
        split <;> rfl
    | configure change => rfl
    | _ => cases hwithin
  · cases op with
    | init items => exact s.flags_init items
    | deinit => exact s.flags_deinit
    | run items rows => exact s.flags_run items rows
    | _ => exact absurd rfl hwithin

/-! ### Two histories -/

/-- A session and one that was asked for values besides: of one function, in related states, and with the
same arguments, settings and flags. -/
structure Twin (R : σ → σ → Prop) (s t : Session σ) : Prop extends s.Alike ⟨R, True, True⟩ t where
  flags : t.flags.error = s.flags.error

namespace Twin

variable {R : σ → σ → Prop}

theorem refl (hr : s.routine.Undisturbed R) : Twin R s s where
  routine := rfl
  symbols := rfl
  initialized := rfl
  types := rfl
  labels := rfl
  respects := hr.respects
  items := .inr rfl
  room := rfl
  settings _ := rfl
  context := by
    unfold Context.Alike
    cases s.context.cell with
    | none => exact .none
    | some cell => exact .some (hr.refl cell.state)
  error _ _ := rfl
  flags := rfl

/-- An operation gives the same result in both. -/
theorem reply (h : Twin R s t) (hrefl : ∀ x, R x x) (op : Operation) :
    Reply.Alike ⟨R, True, True⟩ (s.reply op) (t.reply op) := by
  by_cases hop : op.opens = true
  · cases op with
    | init items => exact (h.toAlike.init trivial hrefl h.flags items).map _
    | run items rows => exact (h.toAlike.run trivial hrefl h.flags items rows).map _
    | _ => cases hop
  · have hreply := h.toAlike.reply (.inl trivial) (Bool.eq_false_iff.2 hop) fun _ => trivial
    unfold Likeness.after at hreply
    split at hreply <;> exact hreply

/-- **An operation in both** keeps them twins: the error flag is the same after it while a statement is
running, and stays as it was where none is. -/
theorem perform (h : Twin R s t) (hrefl : ∀ x, R x x) (op : Operation) :
    Twin R (s.perform op) (t.perform op) := by
  have hsession := (h.reply hrefl op).session
  rw [session_reply, session_reply] at hsession
  refine ⟨hsession, ?_⟩
  by_cases hinit : (s.perform op).initialized = true
  · exact hsession.error trivial hinit
  · have hs := Bool.eq_false_iff.2 hinit
    rw [s.flags_perform op hs, t.flags_perform op (hsession.initialized.trans hs)]
    exact h.flags

/-- **A request for the value of the group in the second alone** keeps them twins. -/
theorem asked (h : Twin R s t) (hr : s.routine.Undisturbed R) : Twin R s (t.perform .finish) := by
  rw [Session.perform, finish, whenInitialized]
  split
  · have hcontext : s.context.Alike R (t.value t.flags.error).session.context :=
      h.context.asked (h.routine ▸ hr).process _ _
    have hroom : (t.value t.flags.error).session.area.room = s.area.room := (t.room_value _).trans h.room
    refine ⟨{ h with context := hcontext, room := hroom, settings := fun _ => ?_ }, h.flags⟩
    exact (Context.settings_process ..).trans (h.settings trivial)
  · exact h

end Twin

/-- What is seen of the operations of a history that asks for the value of the group besides, wherever
there is none of them. -/
def seenBeside (s : Session σ) : List (Option Operation) → List Showing
  | [] => []
  | none :: ops => (s.perform .finish).seenBeside ops
  | some op :: ops => s.showing op :: (s.perform op).seenBeside ops

/-- A history with requests between its operations is seen, but for these, in the second of two twins as
the one without in the first. -/
theorem Twin.seenBeside {R : σ → σ → Prop} (h : Twin R s t) (hr : s.routine.Undisturbed R)
    (ops : List (Option Operation)) : t.seenBeside ops = s.transcript ops.reduceOption := by
  induction ops generalizing s t with
  | nil => rfl
  | cons op ops ih =>
    cases op with
    | none => exact ih (h.asked hr) hr
    | some op =>
      have hroutine : (s.perform op).routine = s.routine := s.routine_performAll [op]
      have hshown := (Alike.showing (h.reply hr.refl op)).2 trivial
      have hrest := ih (h.perform hr.refl op) (hroutine ▸ hr)
      rw [List.reduceOption_cons_of_some, transcript, ← hrest, ← hshown]
      rfl

/-- **Asking for a group's value does not disturb the group.**  Of every function of the catalog but the two
that number the rows, take any history of any session, and ask for the value of the group at any places of
it, any number of times.  Every other operation gives the same result and leaves the same to be seen,
whether what was asked for came, failed or ended in a panic. -/
theorem asking_disturbs_nothing {outside : Outside} {f : Registered} (hf : f ∈ Catalog.functions outside)
    (hsequence : "udf_sequence" ∉ f.names) (htracked : "tracked" ∉ f.names) (script : Script)
    {s : Session f.State} (hs : s.routine = f.code script) (ops : List (Option Operation)) :
    s.seenBeside ops = s.transcript ops.reduceOption := by
  obtain ⟨R, hr⟩ := Catalog.undisturbed_of_mem hf hsequence htracked script
  exact (Twin.refl (hs ▸ hr)).seenBeside (hs ▸ hr) ops

/-- The value of a group is asked for before it begins, in it, and after a step of it failed. -/
theorem asking_disturbs_nothing_groupSum :
    let s := (ofGroupSum.init [⟨.int none, "n", true⟩]).session
    let ops : List (Option Operation) := [none, some .begin, some (.add [.int (some 5)]), none,
      some (.add [.int (some (-1))]), none, none, some .finish]
    s.seenBeside ops
      = s.transcript [.begin, .add [.int (some 5)], .add [.int (some (-1))], .finish] := by
  have hf : Registered.grouping ["group_sum"] "GroupSum" Functions.groupSum true
      ∈ Catalog.functions default := List.mem_iff_getElem.2 ⟨16, by decide, rfl⟩
  have hsequence : "udf_sequence" ∉ ["group_sum"] := by decide
  have htracked : "tracked" ∉ ["group_sum"] := by decide
  intro s ops
  have hs : s.routine = Functions.groupSum := rfl
  exact asking_disturbs_nothing hf hsequence htracked .idle hs ops

end Session
end Loadable
