/-
# Watching a session

A session whose function is watched (`Session.observed`) behaves as it does without: every operation
leaves the same session and the same result (`watched_perform`), so every history does
(`performAll_observed`).  Its notes say what the function was given.  A row that fits is handed on
as the session lays it out (`Session.laidOut`), once, and told of the group's error or of none;
without a state nothing is handed on.
-/

import Loadable.Proofs.History

namespace Loadable

/-- A trace leaves no notes. -/
theorem notes_traced {σ : Type} (mode : Option Trace.Mode) (kind : CallbackKind) (count : Option Nat)
    (before after : Context σ) (events : List Event) :
    Event.notes (Trace.seen mode kind count before after events) = Event.notes events := by
  cases mode with
  | none => rfl
  | some mode =>
    obtain ⟨type, dumps⟩ := mode
    cases count <;> cases dumps <;>
      simp [Trace.seen, Trace.around, Trace.enter, Trace.exit, Trace.dump, Trace.state]

namespace Session

variable {σ α β : Type}

/-- The session with its function watched. -/
def observed (s : Session σ) : Session σ := { s with routine := s.routine.observed }

/-- A reply and the reply of the watched session to the same operation. -/
structure Watched (r w : Reply σ α) : Prop where
  session : w.session = r.session.observed
  result : w.result = r.result

namespace Watched

/-- No call is made. -/
theorem pure (s : Session σ) (result : Except Report α) (es fs : List Event) :
    Watched ⟨s, result, es⟩ ⟨s.observed, result, fs⟩ := ⟨rfl, rfl⟩

theorem andThen {r w : Reply σ α} {next : α → Session σ → Reply σ β} (h : Watched r w)
    (hnext : ∀ a s, Watched (next a s) (next a s.observed)) :
    Watched (r.andThen next) (w.andThen next) := by
  unfold Reply.andThen
  rw [h.result, h.session]
  cases r.result with
  | error e => exact ⟨rfl, rfl⟩
  | ok a => exact ⟨(hnext a r.session).session, (hnext a r.session).result⟩

theorem within {r w : Reply σ α} (h : Watched r w) (context : String) :
    Watched (r.within context) (w.within context) :=
  ⟨h.session, congrArg (Except.mapError (Report.within context)) h.result⟩

theorem attempt {r w : Reply σ α} (h : Watched r w) : Watched r.attempt w.attempt :=
  ⟨h.session, congrArg Except.ok h.result⟩

theorem whenInitialized {s : Session σ} {r w : Reply σ α} (h : Watched r w) :
    Watched (s.whenInitialized r) (s.observed.whenInitialized w) := by
  unfold Session.whenInitialized
  change Watched _ (if s.initialized then w else _)
  split
  · exact h
  · exact pure s _ _ _

theorem onRow {s : Session σ} {row : List Datum} {next : Session σ → Reply σ α}
    (hnext : ∀ t, Watched (next t) (next t.observed)) :
    Watched (s.onRow row next) (s.observed.onRow row next) := by
  refine whenInitialized ?_
  change Watched _ (if row.length ≠ s.types.length then _ else _)
  split
  · exact pure s _ _ _
  · exact hnext (s.withRow row)

end Watched

/-! ### Each operation -/

variable (s : Session σ)

/-- What a session makes of `init` does not depend on its events. -/
theorem watched_entered (reply : InitReply σ) (events : List Event) :
    Watched (s.entered reply) (s.observed.entered { reply with events }) := by
  unfold entered
  dsimp only
  cases reply.message with
  | none => exact ⟨rfl, rfl⟩
  | some m => exact ⟨rfl, rfl⟩

theorem watched_init (items : List Sample) : Watched (s.init items) (s.observed.init items) := by
  by_cases h : s.initialized
  · rw [init, if_pos h, init, if_pos (show s.observed.initialized from h)]
    exact Watched.pure s _ _ _
  rw [init, if_neg h, init, if_neg (show ¬ s.observed.initialized from h)]
  dsimp only
  by_cases hi : s.symbols.init.isNone
  · rw [if_pos hi, if_pos (show s.observed.symbols.init.isNone from hi)]
    exact ⟨rfl, rfl⟩
  · rw [if_neg hi, if_neg (show ¬ s.observed.symbols.init.isNone from hi)]
    dsimp only [observed]
    rw [Context.init_observed]
    exact watched_entered { s with items } _ _

theorem watched_value (error : UInt8) : Watched (s.value error) (s.observed.value error) := by
  unfold value
  dsimp only [observed]
  rw [Context.process_observed]
  exact ⟨rfl, rfl⟩

theorem watched_process (row : List Datum) : Watched (s.process row) (s.observed.process row) :=
  Watched.onRow fun t => watched_value t 0

/-- A step of a group and its watched counterpart, which differ in events only. -/
theorem watched_stepped (kind : CallbackKind) (count : Option Nat) (reply : StepReply σ)
    (events : List Event) :
    Watched (s.stepped kind count reply) (s.observed.stepped kind count { reply with events }) :=
  ⟨rfl, rfl⟩

theorem watched_begin : Watched s.begin s.observed.begin := by
  refine Watched.whenInitialized ?_
  change Watched _ (if s.symbols.clear.isNone then _ else _)
  split
  · exact Watched.pure s _ _ _
  · refine Watched.andThen ?_ fun _ t => ⟨rfl, rfl⟩
    dsimp only [observed]
    rw [Context.clear_observed]
    exact watched_stepped s _ _ _ _

theorem watched_rowStep (symbol : Option Unit) (missing : Misuse) (call : Session σ → StepReply σ)
    (row : List Datum)
    (hcall : ∀ t, call t.observed = { call t with events := (call t.observed).events }) :
    Watched (s.rowStep symbol missing call row) (s.observed.rowStep symbol missing call row) := by
  unfold rowStep
  split
  · exact Watched.pure s _ _ _
  · refine Watched.onRow fun t => ?_
    rw [hcall]
    exact watched_stepped t _ _ _ _

theorem watched_add (row : List Datum) : Watched (s.add row) (s.observed.add row) :=
  watched_rowStep s _ _ _ row fun _ => Context.add_observed ..

theorem watched_remove (row : List Datum) : Watched (s.remove row) (s.observed.remove row) :=
  watched_rowStep s _ _ _ row fun _ => Context.remove_observed ..

theorem watched_finish : Watched s.finish s.observed.finish :=
  Watched.whenInitialized (watched_value s s.flags.error)

theorem watched_addAll (rows : List (List Datum)) :
    Watched (s.addAll rows) (s.observed.addAll rows) := by
  induction rows generalizing s with
  | nil => exact ⟨rfl, rfl⟩
  | cons row rows ih => exact Watched.andThen (watched_add s row) fun _ t => ih t

theorem watched_group (rows : List (List Datum)) :
    Watched (s.group rows) (s.observed.group rows) := by
  refine Watched.andThen (watched_begin s) fun _ t => ?_
  exact Watched.andThen (watched_addAll t rows) fun _ u => watched_finish u

theorem watched_deinit : Watched s.deinit s.observed.deinit := by
  refine Watched.whenInitialized ?_
  dsimp only
  by_cases hd : s.symbols.deinit.isNone
  · rw [if_pos hd, if_pos (show s.observed.symbols.deinit.isNone from hd)]
    exact ⟨rfl, rfl⟩
  · rw [if_neg hd, if_neg (show ¬ s.observed.symbols.deinit.isNone from hd)]
    dsimp only [observed]
    rw [Context.fst_deinit_observed]
    exact ⟨rfl, rfl⟩

theorem watched_processAll (rows : List (List Datum)) :
    Watched (s.processAll rows) (s.observed.processAll rows) := by
  induction rows generalizing s with
  | nil => exact ⟨rfl, rfl⟩
  | cons row rows ih =>
    refine Watched.andThen (watched_process s row) fun _ t => ?_
    exact Watched.andThen (ih t) fun _ u => ⟨rfl, rfl⟩

theorem watched_run (items : List Sample) (rows : List (List Datum)) :
    Watched (s.run items rows) (s.observed.run items rows) := by
  refine Watched.andThen (watched_init s items) fun _ t => ?_
  refine Watched.andThen (watched_processAll t rows).attempt fun _ u => ?_
  exact Watched.andThen (watched_deinit u) fun _ v => ⟨rfl, rfl⟩

theorem watched_surprises (index : Nat) (rows : List (List Datum × Output)) :
    Watched (s.surprises index rows) (s.observed.surprises index rows) := by
  induction rows generalizing s index with
  | nil => exact ⟨rfl, rfl⟩
  | cons row rows ih =>
    refine Watched.andThen ((watched_process s row.1).within _) fun _ t => ?_
    exact Watched.andThen (ih t (index + 1)) fun _ u => ⟨rfl, rfl⟩

theorem watched_expect (rows : List (List Datum)) (expected : List Output) :
    Watched (s.expect rows expected) (s.observed.expect rows expected) := by
  unfold expect
  split
  · exact Watched.pure s _ _ _
  · refine Watched.andThen (watched_surprises s 0 _) fun lines t => ?_
    split <;> exact ⟨rfl, rfl⟩

/-- Watching changes no operation. -/
theorem perform_observed (op : Operation) : s.observed.perform op = (s.perform op).observed := by
  cases op with
  | init items => exact (watched_init s items).session
  | process row => exact (watched_process s row).session
  | begin => exact (watched_begin s).session
  | add row => exact (watched_add s row).session
  | remove row => exact (watched_remove s row).session
  | finish => exact (watched_finish s).session
  | group rows => exact (watched_group s rows).session
  | deinit => exact (watched_deinit s).session
  | run items rows => exact (watched_run s items rows).session
  | expect rows expected => exact (watched_expect s rows expected).session
  | configure change => rfl

/-- **Watching changes no history.** -/
theorem performAll_observed (ops : List Operation) :
    s.observed.performAll ops = (s.performAll ops).observed := by
  induction ops generalizing s with
  | nil => rfl
  | cons op ops ih =>
    change (s.observed.perform op).performAll ops = ((s.perform op).performAll ops).observed
    rw [perform_observed, ih]

/-! ### What the function is given -/

/-- One operation's notes come before those of the next. -/
theorem notes_andThen (r : Reply σ α) (next : α → Session σ → Reply σ β) :
    Event.notes (r.andThen next).events
      = Event.notes r.events ++ match r.result with
        | .error _ => []
        | .ok a => Event.notes (next a r.session).events := by
  unfold Reply.andThen
  cases r.result with
  | error e => exact (List.append_nil _).symm
  | ok a => exact Event.notes_append _ _

/-- Whether a row is handed on: the function is prepared, and there is a value for each argument. -/
def accepts (s : Session σ) (row : List Datum) : Bool :=
  s.initialized && row.length == s.types.length

/-- A row as it is handed on. -/
def laidOut (s : Session σ) (row : List Datum) : List Argument := (s.withRow row).arguments

theorem onRow_of_accepts {row : List Datum} (h : s.accepts row = true)
    (next : Session σ → Reply σ α) : s.onRow row next = next (s.withRow row) := by
  obtain ⟨hinit, hlen⟩ := Bool.and_eq_true_iff.1 h
  rw [onRow, whenInitialized, if_pos hinit, if_neg (not_not_intro (by simpa using hlen))]

/-- A row that is not handed on leaves the session as it was. -/
theorem onRow_of_not_accepts {row : List Datum} (h : s.accepts row = false)
    (next : Session σ → Reply σ α) : ∃ m, s.onRow row next = s.refuse m := by
  rw [onRow, whenInitialized]
  by_cases hinit : s.initialized
  · have hlen : row.length ≠ s.types.length := by simpa [accepts, hinit] using h
    exact ⟨_, by rw [if_pos hinit, if_pos hlen]⟩
  · exact ⟨_, by rw [if_neg hinit]⟩

theorem begin_called (hinit : s.initialized = true) (hclear : s.symbols.clear.isSome = true) :
    s.begin = (s.stepped .clear none (s.context.clear s.routine GroupFlags.clear.toFlags)).andThen
      fun _ s => s.done () := by
  have hnone : ¬ s.symbols.clear.isNone := by simpa [Option.isSome_iff_ne_none] using hclear
  rw [begin, whenInitialized, if_pos hinit, if_neg hnone]

theorem begin_refused (hinit : s.initialized = true) (hclear : ¬ s.symbols.clear.isSome = true) :
    s.begin = s.refuse (.notAggregate s.name) := by
  rw [begin, whenInitialized, if_pos hinit, if_pos (by simpa using hclear)]

section RowStep

variable {s} {row : List Datum} (missing : Misuse) (call : Session σ → StepReply σ)

theorem rowStep_accepted {symbol : Option Unit} (h : s.accepts row = true)
    (hsymbol : symbol.isSome = true) :
    s.rowStep symbol missing call row
      = (s.withRow row).stepped .add (some (s.withRow row).items.length)
        (call (s.withRow row)) := by
  have hnone : ¬ symbol.isNone := by simpa [Option.isSome_iff_ne_none] using hsymbol
  rw [rowStep, if_neg hnone, onRow_of_accepts s h]

/-- A step without its symbol, or with a row that does not fit, is refused. -/
theorem rowStep_refused {symbol : Option Unit} (h : ¬ (s.accepts row && symbol.isSome) = true) :
    ∃ m, s.rowStep symbol missing call row = s.refuse m := by
  by_cases hsymbol : symbol.isNone
  · exact ⟨missing, by rw [rowStep, if_pos hsymbol]⟩
  · have hsome := Option.isNone_eq_false_iff.1 (Bool.eq_false_iff.2 hsymbol)
    rw [rowStep, if_neg hsymbol]
    refine onRow_of_not_accepts s ?_ _
    simpa [hsome] using h

/-- A step that is refused leaves the session as it was. -/
theorem session_of_refused {symbol : Option Unit} {e : Report}
    (h : (s.rowStep symbol missing call row).result = .error e) :
    (s.rowStep symbol missing call row).session = s := by
  by_cases hrow : (s.accepts row && symbol.isSome) = true
  · obtain ⟨haccepts, hsymbol⟩ := Bool.and_eq_true_iff.1 hrow
    rw [rowStep_accepted missing call haccepts hsymbol] at h
    cases h
  · obtain ⟨m, hm⟩ := rowStep_refused missing call hrow
    rw [hm]
    rfl

/-- A step hands on what its call does. -/
theorem notes_rowStep {symbol : Option Unit} (h : s.accepts row = true)
    (hsymbol : symbol.isSome = true) :
    Event.notes (s.observed.rowStep symbol missing call row).events
      = Event.notes (call (s.withRow row).observed).events := by
  rw [rowStep_accepted missing call (show s.observed.accepts row = true from h) hsymbol]
  exact notes_traced ..

end RowStep

/-- The note of what the function is given, if there is a state. -/
def given (s : Session σ) (stage : Stage) (error : Option UInt8)
    (args : Option (List Argument)) : List Note :=
  if s.hasState then [.called stage 0 error s.context.settings args] else []

/-- What a call with an error byte is given. -/
theorem given_ofCall (stage : Stage) (flags : Flags) (args : Option (List Argument)) :
    (if s.hasState then [.ofCall stage flags.code? s.context.settings args] else [])
      = s.given stage (flags.error.bind Code.told) args := by
  rw [given, Note.ofCall, Flags.map_val_code?]

/-- A call for a value hands the arguments on, and the error that it is called with. -/
theorem notes_value (error : UInt8) :
    Event.notes (s.observed.value error).events
      = s.given .process (Code.told error) (some s.arguments) :=
  (notes_traced ..).trans ((Context.notes_process ..).trans (s.given_ofCall ..))

/-- A group begins without an error. -/
theorem notes_begin (hinit : s.initialized = true) (hclear : s.symbols.clear.isSome = true) :
    Event.notes s.observed.begin.events = s.given .clear none none := by
  rw [s.observed.begin_called hinit hclear, Reply.andThen]
  refine (congrArg Event.notes (List.append_nil _)).trans ?_
  exact (notes_traced ..).trans ((Context.notes_clear ..).trans (s.given_ofCall ..))

/-- The value of a group is asked for with the error of the group. -/
theorem notes_finish (hinit : s.initialized = true) :
    Event.notes s.observed.finish.events
      = s.given .process (Code.told s.flags.error) (some s.arguments) := by
  rw [finish, whenInitialized, if_pos (show s.observed.initialized = true from hinit)]
  exact notes_value s s.flags.error

variable {row : List Datum}

/-- The value of a row is asked for without an error. -/
theorem notes_process (h : s.accepts row = true) :
    Event.notes (s.observed.process row).events
      = s.given .process none (some (s.laidOut row)) := by
  rw [process, onRow_of_accepts s.observed h]
  exact notes_value (s.withRow row) 0

theorem notes_add (h : s.accepts row = true) (hadd : s.symbols.add.isSome = true) :
    Event.notes (s.observed.add row).events
      = s.given .add (Code.told s.flags.error) (some (s.laidOut row)) :=
  (notes_rowStep _ _ h hadd).trans
    ((Context.notes_add ..).trans ((s.withRow row).given_ofCall ..))

theorem notes_remove (h : s.accepts row = true) (hremove : s.symbols.remove.isSome = true) :
    Event.notes (s.observed.remove row).events
      = s.given .remove (Code.told s.flags.error) (some (s.laidOut row)) :=
  (notes_rowStep _ _ h hremove).trans
    ((Context.notes_remove ..).trans ((s.withRow row).given_ofCall ..))

end Session
end Loadable
