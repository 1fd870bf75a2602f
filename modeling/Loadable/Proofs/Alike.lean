/-
# Sessions alike

Two sessions of one function can differ in much that nothing shows: in what is left in the server's
buffer, if there is as much of it, in settings that the code does not read, in a stash, in arguments that
the next row replaces.  `Session.Alike` says what they have in common, up to a relation on the function's
states that its code respects (`Routine.Respects`).  Every operation within a statement gives the same
result in both and leaves them alike (`Alike.reply`), so every history does (`Alike.transcript`).

Not all that is unlike stays so: a new group takes the error flag, and may take the states, from unlike
to alike (`Akin.begin`).  Until then the flag must not be read.
-/

import Loadable.Proofs.ArgumentTypes
import Loadable.Proofs.Delivery
import Loadable.Proofs.GroupErrors
import Loadable.Proofs.Misuse
import Loadable.Proofs.Outputs

namespace Loadable

/-- Runs of code that end alike, in related states. -/
structure Run.Alike {σ ε α : Type} (R : σ → σ → Prop) (run run' : Run σ ε α) : Prop where
  outcome : run'.outcome = run.outcome
  state : R run.state run'.state

namespace Routine

variable {σ : Type} (r : Routine σ) (R R' : σ → σ → Prop)

/-- Starting a group takes states from one relation to another. -/
def Clears : Prop := ∀ {x y}, R x y → ∀ c d e, (r.clear x c e).Alike R' (r.clear y d e)

/-- A function whose code ends alike in related states, whatever the settings. -/
structure Respects : Prop where
  process : ∀ {x y}, R x y → ∀ c d args e, (r.process x c args e).Alike R (r.process y d args e)
  clear : r.Clears R R
  add : ∀ {x y}, R x y → ∀ c d args e, (r.add x c args e).Alike R (r.add y d args e)
  remove : ∀ {x y}, R x y → ∀ c d args e, (r.remove x c args e).Alike R (r.remove y d args e)

/-- A function whose value depends on its state alone, and not on the arguments. -/
def ByGroup : Prop :=
  ∀ {x y}, R x y → ∀ c d args args' e, (r.process x c args e).Alike R (r.process y d args' e)

/-- A function whose code gives the same whatever the settings. -/
theorem respects_eq
    (process : ∀ x c d args e, (r.process x c args e).Alike Eq (r.process x d args e))
    (clear : ∀ x c d e, (r.clear x c e).Alike Eq (r.clear x d e))
    (add : ∀ x c d args e, (r.add x c args e).Alike Eq (r.add x d args e))
    (remove : ∀ x c d args e, (r.remove x c args e).Alike Eq (r.remove x d args e)) :
    r.Respects Eq where
  process := by
    rintro x - rfl
    exact process x
  clear := by
    rintro x - rfl
    exact clear x
  add := by
    rintro x - rfl
    exact add x
  remove := by
    rintro x - rfl
    exact remove x

end Routine

/-- How a scripted function ends depends on its script alone: only its calls are counted. -/
theorem Scripted.respects (f : Scripted) (script : Script) {R : Nat → Nat → Prop}
    (hcount : ∀ {m n}, R m n → R (m + 1) (n + 1)) : (f.routine script).Respects R where
  process h _ _ _ _ := ⟨rfl, hcount h⟩
  clear h _ _ _ := ⟨rfl, hcount h⟩
  add h _ _ _ _ := ⟨rfl, hcount h⟩
  remove h _ _ _ _ := by
    dsimp only [routine]
    split
    · exact ⟨rfl, hcount h⟩
    · exact ⟨rfl, h⟩

/-! ### Calls on one context -/

namespace Context

variable {σ : Type} {R R' : σ → σ → Prop} {c d : Context σ}

/-- Contexts with related states, or with none. -/
def Alike (R : σ → σ → Prop) (c d : Context σ) : Prop :=
  Option.Rel (fun a b : Cell σ => R a.state b.state) c.cell d.cell

/-- Contexts alike, by whether they have a state. -/
theorem Alike.cases (h : c.Alike R d) :
    (c.cell = none ∧ d.cell = none)
      ∨ ∃ a b, c.cell = some a ∧ d.cell = some b ∧ R a.state b.state := by
  unfold Alike at h
  generalize c.cell = x, d.cell = y at h ⊢
  cases h with
  | none => exact .inl ⟨rfl, rfl⟩
  | some hstates => exact .inr ⟨_, _, rfl, rfl, hstates⟩

/-- Contexts without a state are alike. -/
theorem alike_of_none (hc : c.cell = none) (hd : d.cell = none) : c.Alike R d := by
  rw [Alike, hc, hd]
  exact .none

theorem Alike.hasState (h : c.Alike R d) : d.hasState = c.hasState := by
  rw [Context.hasState, Context.hasState]
  obtain ⟨hc, hd⟩ | ⟨a, b, hc, hd, -⟩ := h.cases
  · rw [hc, hd]
  · rw [hc, hd]
    rfl

/-- Contexts that both have a state or both have none, whatever the states. -/
theorem alike_of_hasState (h : d.hasState = c.hasState) : c.Alike (fun _ _ => True) d := by
  rw [hasState, hasState] at h
  cases hc : c.cell with
  | none =>
    rw [hc] at h
    exact alike_of_none hc (Option.not_isSome_iff_eq_none.1 (Bool.eq_false_iff.1 h))
  | some a =>
    rw [hc] at h
    obtain ⟨b, hd⟩ := Option.isSome_iff_exists.1 h
    rw [Alike, hc, hd]
    exact .some trivial

/-- **A step of a group** keeps contexts alike, and leaves the same error, if its code does. -/
theorem Alike.stepWith (h : c.Alike R d) (part : Stage)
    {code code' : σ → Option Code → Run σ Code Unit}
    (hcode : ∀ {x y}, R x y → ∀ e, (code x e).Alike R' (code' y e)) {flags flags' : Flags}
    (hflags : flags'.error = flags.error) :
    (stepWith part code c flags).context.Alike R' (stepWith part code' d flags').context
      ∧ (stepWith part code' d flags').flags.error = (stepWith part code c flags).flags.error := by
  have hcode? : flags'.code? = flags.code? := by rw [Flags.code?, Flags.code?, hflags]
  have hset (e : UInt8) : (flags'.setError e).error = (flags.setError e).error := by
    rw [Flags.setError, Flags.setError, hflags]
  unfold Context.stepWith
  obtain ⟨hc, hd⟩ | ⟨a, b, hc, hd, hstates⟩ := h.cases
  · rw [hc, hd]
    exact ⟨alike_of_none hc hd, hset 1⟩
  · have hrun := hcode hstates flags.code?
    rw [hc, hd]
    dsimp only
    rw [hcode?, hrun.outcome]
    cases (code a.state flags.code?).outcome with
    | ok u => exact ⟨.some hrun.state, hflags⟩
    | err e => exact ⟨.some hrun.state, hset e⟩
    | panic p => exact ⟨.some hrun.state, hset 1⟩

variable {r : Routine σ} {args args' : List Argument}

/-- **A call for a value** keeps contexts alike and comes to the same output, if its code does and there is
as much room for a string. -/
theorem Alike.process (h : c.Alike R d)
    (hcode : ∀ {x y}, R x y → ∀ e, (r.process x c.settings args e).Alike R
      (r.process y d.settings args' e)) (error : UInt8) {area area' : ResultArea}
    (hroom : area'.room = area.room) :
    let flags : Flags := ⟨some 0, some error⟩
    (c.process r args flags area).context.Alike R (d.process r args' flags area').context
      ∧ Output.ofReply (d.process r args' flags area')
        = Output.ofReply (c.process r args flags area) := by
  intro flags
  rw [ofReply_process, ofReply_process, hroom]
  obtain ⟨hc, hd⟩ | ⟨a, b, hc, hd, hstates⟩ := h.cases
  · rw [process_unprepared _ _ _ _ _ hc, process_unprepared _ _ _ _ _ hd, verdict, verdict, hc, hd]
    exact ⟨h, rfl⟩
  · rw [process_prepared _ _ _ _ _ hc, process_prepared _ _ _ _ _ hd, verdict, verdict, hc, hd]
    refine ⟨.some (hcode hstates _).state, ?_⟩
    dsimp only
    rw [(hcode hstates _).outcome]

theorem Alike.deinit (h : c.Alike R d) : (c.deinit r).1.Alike R (d.deinit r).1 := by
  unfold Context.deinit
  obtain ⟨hc, hd⟩ | ⟨a, b, hc, hd, -⟩ := h.cases
  · rw [hc, hd]
    exact h
  · rw [hc, hd]
    exact .none

end Context

/-! ### Sessions -/

/-- What sessions are to have in common. -/
structure Likeness (σ : Type) where
  /-- The relation on their states. -/
  states : σ → σ → Prop
  /-- Whether the error flag of the group is the same. -/
  error : Prop
  /-- Whether the settings are the same. -/
  settings : Prop

/-- The likeness once a group was begun. -/
def Likeness.begun {σ : Type} (l : Likeness σ) : Likeness σ := { l with error := True }

namespace Session

variable {σ α β : Type}

/-- Sessions of one function, prepared for the same arguments, whatever state and error they are in.  The
code respects the likeness; the arguments in memory are the same unless the value does not depend
on them. -/
structure Akin (l : Likeness σ) (s t : Session σ) : Prop where
  routine : t.routine = s.routine
  symbols : t.symbols = s.symbols
  initialized : t.initialized = s.initialized
  types : t.types = s.types
  labels : t.labels = s.labels
  respects : s.routine.Respects l.states
  items : s.routine.ByGroup l.states ∨ t.items = s.items
  room : t.area.room = s.area.room
  settings : l.settings → t.context.settings = s.context.settings

/-- Sessions that no operation within a statement tells apart, as far as their likeness goes.  The error
flag says nothing while no statement is running. -/
structure Alike (l : Likeness σ) (s t : Session σ) : Prop extends Akin l s t where
  context : s.context.Alike l.states t.context
  error : l.error → s.initialized = true → t.flags.error = s.flags.error

end Session

/-- Replies with the same result that leave sessions alike. -/
structure Reply.Alike {σ α : Type} (l : Likeness σ) (r r' : Reply σ α) : Prop where
  session : r.session.Alike l r'.session
  result : r'.result = r.result

namespace Reply.Alike

variable {σ α β : Type} {l : Likeness σ} {r r' : Reply σ α}

theorem andThen {next : α → Session σ → Reply σ β} (h : r.Alike l r')
    (hnext : ∀ a s t, s.Alike l t → (next a s).Alike l (next a t)) :
    (r.andThen next).Alike l (r'.andThen next) := by
  unfold Reply.andThen
  rw [h.result]
  cases r.result with
  | error e => exact ⟨h.session, rfl⟩
  | ok a =>
    have hreply := hnext a _ _ h.session
    exact ⟨hreply.session, hreply.result⟩

theorem within (h : r.Alike l r') (context : String) :
    (r.within context).Alike l (r'.within context) :=
  ⟨h.session, congrArg (Except.mapError (Report.within context)) h.result⟩

theorem map (h : r.Alike l r') (f : α → β) : (r.map f).Alike l (r'.map f) :=
  ⟨h.session, congrArg (Except.map f) h.result⟩

end Reply.Alike

namespace Session

variable {σ α β : Type} {l : Likeness σ} {s t : Session σ}

namespace Akin

variable (h : s.Akin l t)

include h

theorem name : t.name = s.name := congrArg Symbols.name h.symbols

/-- Rows are refused for the same reason, if they are. -/
theorem rowMisuse? (row : List Datum) : t.rowMisuse? row = s.rowMisuse? row := by
  rw [Session.rowMisuse?, Session.rowMisuse?, h.initialized, h.types, h.name]

/-- **A step of a group** from related states: where its code takes them to states alike, and the error
is the same, the sessions are alike after it. -/
theorem stepped {R : σ → σ → Prop} (hcontext : s.context.Alike R t.context) (kind : CallbackKind)
    (count count' : Option Nat) (part : Stage) {code code' : σ → Option Code → Run σ Code Unit}
    (hcode : ∀ {x y}, R x y → ∀ e, (code x e).Alike l.states (code' y e))
    (flags flags' : Flags) (hflags : flags'.error = flags.error) :
    Reply.Alike l.begun (s.stepped kind count (Context.stepWith part code s.context flags))
      (t.stepped kind count' (Context.stepWith part code' t.context flags')) := by
  obtain ⟨hcontext, herror⟩ := hcontext.stepWith part hcode hflags
  have hflag : (GroupFlags.ofFlags (Context.stepWith part code' t.context flags').flags).error
      = (GroupFlags.ofFlags (Context.stepWith part code s.context flags).flags).error := by
    rw [GroupFlags.ofFlags, GroupFlags.ofFlags, herror]
  refine ⟨{ h with context := hcontext, settings := fun hl => ?_, error := fun _ _ => hflag },
    congrArg Except.ok hflag⟩
  unfold Session.stepped
  dsimp only
  rw [Context.settings_stepWith, Context.settings_stepWith]
  exact h.settings hl

/-- **A new group** makes sessions alike, if the code makes their states alike. -/
theorem begin {R : σ → σ → Prop} (hinit : s.initialized = true)
    (hclear : s.symbols.clear.isSome = true) (hcontext : s.context.Alike R t.context)
    (hclears : s.routine.Clears R l.states) : Reply.Alike l.begun s.begin t.begin := by
  have hstep := h.stepped hcontext .clear none none .clear
    (fun hxy e => hclears hxy s.context.settings t.context.settings e)
    GroupFlags.clear.toFlags GroupFlags.clear.toFlags rfl
  rw [s.begin_called hinit hclear, t.begin_called (h.initialized.trans hinit) (by rwa [h.symbols]),
    Context.clear, Context.clear, h.routine]
  exact ⟨hstep.session, rfl⟩

end Akin

namespace Alike

/-- A likeness that asks for the error flag asks for more. -/
theorem of_begun (h : s.Alike l.begun t) : s.Alike l t :=
  { h with error := fun _ => h.error trivial }

theorem begun_of_error (h : s.Alike l t) (herror : l.error) : s.Alike l.begun t :=
  { h with error := fun _ => h.error herror }

/-- While no statement is running nothing has to be said of the error flag. -/
theorem begun_of_ended (h : s.Alike l t) (hinit : ¬ s.initialized = true) : s.Alike l.begun t :=
  { h with error := fun _ hrunning => absurd hrunning hinit }

/-- **A row** makes the arguments the same. -/
theorem withRow (h : s.Alike l t) (row : List Datum) :
    (s.withRow row).Alike l (t.withRow row) ∧ (t.withRow row).items = (s.withRow row).items := by
  have hitems : (t.withRow row).items = (s.withRow row).items := by
    rw [items_withRow, items_withRow, h.labels, h.types]
  have hlabels : (t.withRow row).labels = (s.withRow row).labels := by
    rw [labels, labels, hitems]
  exact ⟨{ h with labels := hlabels, items := .inr hitems }, hitems⟩

/-! #### Replies -/

theorem done (h : s.Alike l t) (a : α) : Reply.Alike l (s.done a) (t.done a) := ⟨h, rfl⟩

theorem refuse (h : s.Alike l t) (m : Misuse) :
    Reply.Alike l (s.refuse m : Reply σ α) (t.refuse m) := ⟨h, rfl⟩

theorem whenInitialized (h : s.Alike l t) {r r' : Reply σ α}
    (hnext : s.initialized = true → Reply.Alike l r r') :
    Reply.Alike l (s.whenInitialized r) (t.whenInitialized r') := by
  by_cases hinit : s.initialized = true
  · rw [s.whenInitialized_passed hinit, t.whenInitialized_passed (h.initialized.trans hinit)]
    exact hnext hinit
  · have hfalse := Bool.eq_false_iff.2 hinit
    rw [s.whenInitialized_refused hfalse, t.whenInitialized_refused (h.initialized.trans hfalse),
      h.name]
    exact h.refuse _

theorem onRow (h : s.Alike l t) (row : List Datum) {next next' : Session σ → Reply σ α}
    (hnext : s.initialized = true → Reply.Alike l (next (s.withRow row)) (next' (t.withRow row))) :
    Reply.Alike l (s.onRow row next) (t.onRow row next') := by
  rw [onRow_eq, onRow_eq, h.rowMisuse?]
  cases hmisuse : s.rowMisuse? row with
  | some m => exact h.refuse m
  | none => exact hnext (Bool.and_eq_true_iff.1 (s.rowMisuse?_eq_none_iff.1 hmisuse)).1

/-- A call for a value with an error. -/
theorem value (h : s.Alike l t) (error : UInt8) :
    Reply.Alike l (s.value error) (t.value error) := by
  have hcode : ∀ {x y}, l.states x y → ∀ e,
      (s.routine.process x s.context.settings s.arguments e).Alike l.states
        (s.routine.process y t.context.settings t.arguments e) := by
    intro x y hxy e
    rcases h.items with hgroup | hitems
    · exact hgroup hxy _ _ _ _ e
    · rw [arguments, arguments, hitems]
      exact h.respects.process hxy _ _ _ e
  have hroom : (t.value error).session.area.room = (s.value error).session.area.room := by
    rw [room_value, room_value, h.room]
  obtain ⟨hcontext, houtput⟩ := h.context.process hcode error h.room
  unfold Session.value at hroom ⊢
  rw [h.routine] at hroom ⊢
  refine ⟨{ h with routine := rfl, context := hcontext, room := hroom, settings := fun hl => ?_ },
    congrArg Except.ok houtput⟩
  dsimp only
  rw [Context.settings_process, Context.settings_process]
  exact h.settings hl

/-- A step of a group with a row, which the code is told of the error of the group. -/
theorem rowStep (h : s.Alike l t) (herror : l.error) (row : List Datum) (symbol : Option Unit)
    (missing : Misuse) (part : Stage) (code : Session σ → σ → Option Code → Run σ Code Unit)
    (hcode : ∀ {s t : Session σ}, s.Alike l t → t.items = s.items → ∀ {x y}, l.states x y → ∀ e,
      (code s x e).Alike l.states (code t y e)) :
    let call := fun u : Session σ => Context.stepWith part (code u) u.context u.flags.toFlags
    Reply.Alike l (s.rowStep symbol missing call row) (t.rowStep symbol missing call row) := by
  intro call
  unfold Session.rowStep
  split
  · exact h.refuse missing
  · refine h.onRow row fun hinit => ?_
    obtain ⟨hrow, hitems⟩ := h.withRow row
    have hstep := hrow.toAkin.stepped hrow.context .add (some (s.withRow row).items.length)
      (some (t.withRow row).items.length) part (hcode hrow hitems) s.flags.toFlags t.flags.toFlags
      (congrArg some (h.error herror hinit))
    exact ⟨of_begun hstep.session, hstep.result⟩

/-! #### Each operation -/

theorem process (h : s.Alike l t) (row : List Datum) :
    Reply.Alike l (s.process row) (t.process row) :=
  h.onRow row fun _ => (h.withRow row).1.value 0

theorem add (h : s.Alike l t) (herror : l.error) (row : List Datum) :
    Reply.Alike l (s.add row) (t.add row) := by
  unfold Session.add
  rw [h.symbols, h.name]
  refine h.rowStep herror row _ _ .add
    (fun u x e => u.routine.add x u.context.settings u.arguments e) ?_
  intro s t hst hitems x y hxy e
  rw [hst.routine, arguments, arguments, hitems]
  exact hst.respects.add hxy _ _ _ e

theorem remove (h : s.Alike l t) (herror : l.error) (row : List Datum) :
    Reply.Alike l (s.remove row) (t.remove row) := by
  unfold Session.remove
  rw [h.symbols, h.name]
  refine h.rowStep herror row _ _ .remove
    (fun u x e => u.routine.remove x u.context.settings u.arguments e) ?_
  intro s t hst hitems x y hxy e
  rw [hst.routine, arguments, arguments, hitems]
  exact hst.respects.remove hxy _ _ _ e

theorem finish (h : s.Alike l t) (herror : l.error) : Reply.Alike l s.finish t.finish := by
  refine h.whenInitialized fun hinit => ?_
  rw [h.error herror hinit]
  exact h.value _

/-- A group is begun, or refused to be.  If it is refused while a statement is running, for want of a
symbol, the error flag stays as it was. -/
theorem begin (h : s.Alike l t) (hflag : l.error ∨ s.symbols.clear.isSome = true) :
    Reply.Alike l.begun s.begin t.begin := by
  by_cases hinit : s.initialized = true
  · by_cases hclear : s.symbols.clear.isSome = true
    · exact h.toAkin.begin hinit hclear h.context h.respects.clear
    · rw [s.begin_refused hinit hclear,
        t.begin_refused (h.initialized.trans hinit) (by rwa [h.symbols]), h.name]
      exact (h.begun_of_error (hflag.resolve_right hclear)).refuse _
  · exact (h.begun_of_ended hinit).whenInitialized fun hrunning => absurd hrunning hinit

theorem addAll (h : s.Alike l t) (herror : l.error) (rows : List (List Datum)) :
    Reply.Alike l (s.addAll rows) (t.addAll rows) := by
  induction rows generalizing s t with
  | nil => exact h.done ()
  | cons row rows ih => exact (h.add herror row).andThen fun _ _ _ h => ih h

/-- The rest of a group that was begun. -/
theorem groupRest (h : s.Alike l.begun t) (rows : List (List Datum)) :
    Reply.Alike l.begun ((s.addAll rows).andThen fun _ s => s.finish)
      ((t.addAll rows).andThen fun _ t => t.finish) :=
  (h.addAll trivial rows).andThen fun _ _ _ h => h.finish trivial

theorem group (h : s.Alike l t) (hflag : l.error ∨ s.symbols.clear.isSome = true)
    (rows : List (List Datum)) : Reply.Alike l.begun (s.group rows) (t.group rows) :=
  (h.begin hflag).andThen fun _ _ _ h => h.groupRest rows

theorem deinit (h : s.Alike l t) : Reply.Alike l s.deinit t.deinit := by
  refine h.whenInitialized fun _ => ?_
  dsimp only
  rw [h.symbols, h.routine]
  have hended : { s with initialized := false }.Alike l
      { t with routine := s.routine, symbols := s.symbols, initialized := false } :=
    { h with
      routine := rfl
      symbols := rfl
      initialized := rfl
      error := fun _ hrunning => absurd hrunning Bool.false_ne_true }
  split
  · exact hended.done ()
  · refine ⟨{ hended with context := h.context.deinit, settings := fun hl => ?_ }, rfl⟩
    dsimp only
    rw [Context.settings_deinit, Context.settings_deinit]
    exact h.settings hl

theorem surprises (h : s.Alike l t) (index : Nat) (rows : List (List Datum × Output)) :
    Reply.Alike l (s.surprises index rows) (t.surprises index rows) := by
  induction rows generalizing s t index with
  | nil => exact h.done []
  | cons row rows ih =>
    refine ((h.process row.1).within _).andThen fun _ _ _ h => ?_
    exact (ih h (index + 1)).andThen fun _ _ _ h => h.done _

theorem expect (h : s.Alike l t) (rows : List (List Datum)) (expected : List Output) :
    Reply.Alike l (s.expect rows expected) (t.expect rows expected) := by
  unfold Session.expect
  split
  · exact ⟨h, rfl⟩
  · refine (h.surprises 0 _).andThen fun lines s t h => ?_
    split
    · exact h.done ()
    · exact ⟨h, by rw [h.name]⟩

theorem configure (h : s.Alike l t) (change : Settings.Change) :
    Reply.Alike l (s.configure change) (t.configure change) :=
  ⟨{ h with settings := fun hl => congrArg (Settings.set · change) (h.settings hl) }, rfl⟩

end Alike
end Session

/-! ### Histories -/

namespace Operation

/-- Whether an operation begins a statement. -/
def opens : Operation → Bool
  | init _ => true
  | run _ _ => true
  | _ => false

/-- Whether an operation begins a group. -/
def begins : Operation → Bool
  | begin => true
  | group _ => true
  | _ => false

/-- Whether an operation goes on with the group that was begun, so that it is told of its error. -/
def goesOn : Operation → Bool
  | add _ => true
  | remove _ => true
  | finish => true
  | _ => false

/-- Operations of which none goes on with a group before one was begun. -/
def BegunFirst (ops : List Operation) : Prop :=
  ∀ op ∈ ops.takeWhile fun op => !op.begins, op.goesOn = false

instance (ops : List Operation) : Decidable (BegunFirst ops) :=
  inferInstanceAs (Decidable (∀ op ∈ ops.takeWhile fun op => !op.begins, op.goesOn = false))

theorem BegunFirst.head {op : Operation} {ops : List Operation} (h : BegunFirst (op :: ops)) :
    op.goesOn = false := by
  cases op with
  | begin => rfl
  | group rows => rfl
  | _ => exact h _ (by simp [begins])

theorem BegunFirst.tail {op : Operation} {ops : List Operation} (h : BegunFirst (op :: ops))
    (hop : op.begins = false) : BegunFirst ops :=
  fun o ho => h o (by simpa [hop] using .inr ho)

end Operation

/-- The likeness after an operation. -/
def Likeness.after {σ : Type} (l : Likeness σ) (op : Operation) : Likeness σ :=
  if op.begins then l.begun else l

/-- What is seen but for the settings. -/
def Showing.plain (x : Showing) : Showing := { x with settings := .empty }

namespace Session

variable {σ : Type} {l : Likeness σ} {s t : Session σ}

namespace Alike

/-- **An operation** that begins no statement gives the same result in sessions alike, and leaves them
alike: if it goes on with a group, provided the error flag is the same. -/
theorem reply (h : s.Alike l t) (hflag : l.error ∨ s.symbols.clear.isSome = true) {op : Operation}
    (hop : op.opens = false) (hgoes : op.goesOn = true → l.error) :
    Reply.Alike (l.after op) (s.reply op) (t.reply op) := by
  cases op with
  | init items => cases hop
  | run items rows => cases hop
  | process row => exact (h.process row).map _
  | begin => exact (h.begin hflag).map _
  | add row => exact (h.add (hgoes rfl) row).map _
  | remove row => exact (h.remove (hgoes rfl) row).map _
  | finish => exact (h.finish (hgoes rfl)).map _
  | group rows => exact (h.group hflag rows).map _
  | deinit => exact h.deinit.map _
  | expect rows expected => exact (h.expect rows expected).map _
  | configure change => exact (h.configure change).map _

/-- What is seen of an operation with such replies. -/
theorem showing {op : Operation} (h : Reply.Alike l (s.reply op) (t.reply op)) :
    (t.showing op).plain = (s.showing op).plain
      ∧ (l.settings → t.showing op = s.showing op) := by
  have hsession := h.session
  rw [session_reply, session_reply] at hsession
  have hstate : (t.perform op).hasState = (s.perform op).hasState := hsession.context.hasState
  unfold Session.showing Showing.plain
  dsimp only
  rw [h.result, hsession.types, hstate]
  exact ⟨rfl, fun hl => by rw [hsession.settings hl]⟩

/-- **A history** without a new statement is seen alike in sessions alike: if it goes on with a group
before it begins one, provided the error flag is the same. -/
theorem transcript (h : s.Alike l t) (hflag : l.error ∨ s.symbols.clear.isSome = true)
    {ops : List Operation} (hops : ∀ op ∈ ops, op.opens = false)
    (hbegun : l.error ∨ Operation.BegunFirst ops) :
    (t.transcript ops).map Showing.plain = (s.transcript ops).map Showing.plain
      ∧ (l.settings → t.transcript ops = s.transcript ops) := by
  induction ops generalizing l s t with
  | nil => exact ⟨rfl, fun _ => rfl⟩
  | cons op ops ih =>
    have hreply := h.reply hflag (hops op List.mem_cons_self) fun hgoes =>
      hbegun.resolve_right fun hfirst => by simp [hfirst.head] at hgoes
    have hrest := fun o ho => hops o (List.mem_cons_of_mem _ ho)
    obtain ⟨hplain, hshown⟩ := showing hreply
    have hsession := hreply.session
    rw [session_reply, session_reply] at hsession
    unfold Session.transcript
    by_cases hop : op.begins = true
    · rw [Likeness.after, if_pos hop] at hsession hshown
      obtain ⟨hplains, hall⟩ := ih hsession (.inl trivial) hrest (.inl trivial)
      exact ⟨by rw [List.map_cons, List.map_cons, hplain, hplains],
        fun hl => by rw [hshown hl, hall hl]⟩
    · have hsymbols : (s.perform op).symbols = s.symbols := s.symbols_performAll [op]
      rw [Likeness.after, if_neg hop] at hsession hshown
      obtain ⟨hplains, hall⟩ := ih hsession (by rwa [hsymbols]) hrest
        (hbegun.imp_right fun hfirst => hfirst.tail (Bool.eq_false_iff.2 hop))
      exact ⟨by rw [List.map_cons, List.map_cons, hplain, hplains],
        fun hl => by rw [hshown hl, hall hl]⟩

end Alike
end Session
end Loadable
