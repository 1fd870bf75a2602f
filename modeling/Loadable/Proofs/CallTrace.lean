/-
# The trace of a run

With tracing on, a call is logged when it starts and when it ends, and between the two stands all that it
lets be seen.  Two hands write there: the function's own code (`Context.own`), which may log whatever it
likes, and the wrapper around it (`Context.remarks`), which tells of a panic that it caught and of a
state that it did not find.  `Context.entries_events` sets them apart, for every call and however it ends.

The two ends of a call, the panics and the missing states can be counted off the log but for what the
function's own code wrote, in one call (`Context.balanced`), over a whole run of calls, and in a session
with its calls traced (`Session.traces_are_balanced`).  They cannot be counted off the log alone: code may
write an entry as the wrapper would (`Session.own_entries_count_too`).
-/

import Loadable.Functions.Scripted
import Loadable.Proofs.Lifetime
import Loadable.Proofs.Misuse
import Loadable.Trace

namespace Loadable

/-! ### Log entries among events -/

namespace Event

@[simp] theorem entries_nil : entries [] = [] := rfl

@[simp] theorem entries_append (es fs : List Event) :
    entries (es ++ fs) = entries es ++ entries fs := by
  simp [entries]

@[simp] theorem entries_log (e : Log.Entry) (es : List Event) :
    entries (.log e :: es) = e :: entries es := rfl

@[simp] theorem entries_logged (level : Log.Level) (message : String) (es : List Event) :
    entries (logged level message :: es) = ⟨some level, message⟩ :: entries es := rfl

end Event

/-! ### What a trace adds -/

namespace Trace

/-- The entry at the start of a call. -/
def entered (kind : CallbackKind) (type : String) : Log.Entry :=
  ⟨some .debug, "ENTER " ++ kind.name ++ " for `" ++ type ++ "`"⟩

/-- The entry at the end of a call. -/
def exited (kind : CallbackKind) (type : String) : Log.Entry :=
  ⟨some .debug, "EXIT " ++ kind.name ++ " for `" ++ type ++ "`"⟩

/-- Whether an entry reads like the start of a call, of any kind and type. -/
def opens (e : Log.Entry) : Bool := "ENTER ".toList.isPrefixOf e.message.toList

/-- Whether an entry reads like the end of a call, of any kind and type. -/
def closes (e : Log.Entry) : Bool := "EXIT ".toList.isPrefixOf e.message.toList

/-- An entry that reads like neither end of a call. -/
structure Inner (e : Log.Entry) : Prop where
  opens : opens e = false
  closes : closes e = false

/-- An entry that shows what a call works on. -/
structure Shows (e : Log.Entry) : Prop extends Inner e where
  level : e.level = some .debug

variable (kind : CallbackKind) (type : String)

@[simp] theorem opens_entered : opens (entered kind type) = true := by
  simp [opens, entered]

@[simp] theorem closes_entered : closes (entered kind type) = false := by
  simp [closes, entered, List.isPrefixOf]

@[simp] theorem opens_exited : opens (exited kind type) = false := by
  simp [opens, exited, List.isPrefixOf]

@[simp] theorem closes_exited : closes (exited kind type) = true := by
  simp [closes, exited]

/-- An entry whose text begins with another letter is within a call. -/
theorem Inner.of_head {e : Log.Entry} {c : Char} {cs : List Char} (h : e.message.toList = c :: cs)
    (hc : c ≠ 'E') : Inner e := by
  have hne : ('E' == c) = false := beq_false_of_ne (Ne.symm hc)
  constructor
  · simp only [Trace.opens, h]
    exact congrArg (· && _) hne
  · simp only [Trace.closes, h]
    exact congrArg (· && _) hne

theorem shows_state (direction name : String) (s : Settings) (hasState : Bool)
    (count : Option Nat) :
    ∀ e ∈ Event.entries (state direction name s hasState count), Shows e := by
  have hdata : Shows ⟨some .debug, "data " ++ direction ++ " state at " ++ name⟩ :=
    ⟨.of_head (by simp; exact ⟨rfl, rfl⟩) (by decide), rfl⟩
  have hshown (what text : String) : Shows ⟨some .debug, "[" ++ direction ++ what ++ text⟩ :=
    ⟨.of_head (by simp; exact ⟨rfl, rfl⟩) (by decide), rfl⟩
  cases count with
  | none => simpa [state] using ⟨hdata, hshown _ _⟩
  | some n => simpa [state] using ⟨hdata, hshown _ _, hshown _ _⟩

theorem shows_dump {σ : Type} (direction : String) (call : Trace.Call) (c : Context σ) :
    ∀ e ∈ Event.entries (dump direction call c), Shows e := by
  unfold dump
  split
  · exact shows_state _ _ _ _ _
  · nofun

/-- **A traced call** is logged from its start to its end, with its own entries in between, and without
dumps nothing else. -/
theorem entries_seen {σ : Type} (mode : Mode) (count : Option Nat) (before after : Context σ)
    (events : List Event) :
    ∃ received returned, (∀ e ∈ received ++ returned, Shows e)
      ∧ (mode.dumps = false → received ++ returned = [])
      ∧ Event.entries (seen (some mode) kind count before after events)
        = entered kind mode.type :: (received ++ Event.entries events ++ returned
          ++ [exited kind mode.type]) := by
  refine ⟨Event.entries (dump "receive" ⟨kind, mode, count⟩ before),
    Event.entries (dump "return" ⟨kind, mode, count⟩ after), fun e he => ?_, fun hdumps => ?_, ?_⟩
  · rcases List.mem_append.1 he with he | he
    · exact shows_dump _ _ _ e he
    · exact shows_dump _ _ _ e he
  · simp [dump, hdumps]
  · simp [seen, around, enter, exit, entered, exited]

end Trace

/-! ### What the two hands write -/

/-- The panic that code ended in, if it did. -/
def Outcome.panic? {ε α : Type} : Outcome ε α → Option Panic
  | panic p => some p
  | _ => none

/-- What is left of a piece of code but for its result: what it let be seen, and its panic. -/
structure Trail where
  events : List Event
  panic? : Option Panic

/-- The trail of a run. -/
def Run.trail {σ ε α : Type} (run : Run σ ε α) : Trail := ⟨run.events, run.outcome.panic?⟩

namespace Call

/-- The kind that a call is traced as.  A row that is taken out is traced as one that is folded in. -/
def kind (returns : Returns) : Call → CallbackKind
  | init _ => .init
  | clear _ => .clear
  | add _ _ => .add
  | remove _ _ => .add
  | process _ _ _ => returns.carrier.kind.toKind
  | deinit => .deinit

/-- The number of arguments of a call that takes any. -/
def count? : Call → Option Nat
  | init args => some args.length
  | clear _ => none
  | add args _ => some args.length
  | remove args _ => some args.length
  | process args _ _ => some args.length
  | deinit => none

/-- The part of a function behind a call, as messages name it. -/
def part : Call → String
  | init _ => "init"
  | clear _ => "clear"
  | add _ _ => "add"
  | remove _ _ => "remove"
  | process _ _ _ => "process"
  | deinit => "deinit"

/-- Whether a call is one for a row or a group, which needs a state. -/
def needsState : Call → Bool
  | init _ => false
  | deinit => false
  | _ => true

/-- The entry about a panic. -/
def caught (call : Call) (p : Panic) : Log.Entry :=
  ⟨some .critical, call.part ++ " function panicked: " ++ p.message⟩

/-- The entry about a call that found no state. -/
def unprepared (call : Call) : Log.Entry :=
  ⟨some .error, call.part ++ " called without a successful init"⟩

/-- What is written about a part of a function is within the call. -/
theorem inner_part (call : Call) (level : Option Log.Level) (rest : String) :
    Trace.Inner ⟨level, call.part ++ rest⟩ := by
  cases call <;> exact .of_head (by simp [part]; exact ⟨rfl, rfl⟩) (by decide)

theorem inner_caught (call : Call) (p : Panic) : Trace.Inner (call.caught p) := by
  rw [caught, String.append_assoc]
  exact call.inner_part _ _

theorem inner_unprepared (call : Call) : Trace.Inner call.unprepared := call.inner_part _ _

end Call

/-- The kind that a call of a function is traced as. -/
def Step.kind {σ : Type} (step : Step σ) : CallbackKind := step.call.kind step.code.returns

/-- What a run of code logs, and the wrapper after it. -/
def Trail.logged (t : Trail) (call : Call) : List Log.Entry :=
  Event.entries t.events ++ (t.panic?.map call.caught).toList

namespace Context

variable {σ : Type}

/-- The code of the function that a call runs, if it runs any: `init` only on arguments whose types are
known, the others only on a state. -/
def trail? (c : Context σ) (step : Step σ) : Option Trail :=
  let r := step.code
  match step.call with
  | .init args =>
    match Argument.typeError? args with
    | some _ => none
    | none => some (r.init (c.preparation r args) args).trail
  | .clear flags => c.cell.map fun cell => (r.clear cell.state c.settings flags.code?).trail
  | .add args flags => c.cell.map fun cell => (r.add cell.state c.settings args flags.code?).trail
  | .remove args flags =>
    c.cell.map fun cell => (r.remove cell.state c.settings args flags.code?).trail
  | .process args flags _ =>
    c.cell.map fun cell => (r.process cell.state c.settings args flags.code?).trail
  | .deinit => c.cell.map fun cell => (r.drop cell.state).trail

/-- The panic of the function's own code in a call. -/
def panic? (c : Context σ) (step : Step σ) : Option Panic := (c.trail? step).bind Trail.panic?

/-- What the function's own code logs in a call. -/
def own (c : Context σ) (step : Step σ) : List Log.Entry :=
  match c.trail? step with
  | none => []
  | some trail => Event.entries trail.events

/-- Whether a call finds no state where it needs one. -/
def misses (c : Context σ) (step : Step σ) : Bool := step.call.needsState && !c.hasState

/-- What the wrapper logs in a call: that the code panicked, or that there is no state to run it on. -/
def remarks (c : Context σ) (step : Step σ) : List Log.Entry :=
  match c.panic? step with
  | some p => [step.call.caught p]
  | none => if c.misses step then [step.call.unprepared] else []

/-- What a call lets be seen, but for its trace. -/
def events (c : Context σ) (step : Step σ) : List Event :=
  match step.call with
  | .init args => (c.init step.code args).events
  | .clear flags => (c.clear step.code flags).events
  | .add args flags => (c.add step.code args flags).events
  | .remove args flags => (c.remove step.code args flags).events
  | .process args flags area => (c.process step.code args flags area).events
  | .deinit => (c.deinit step.code).2

/-- What a traced call logs. -/
def logged (mode : Trace.Mode) (c : Context σ) (step : Step σ) : List Log.Entry :=
  Event.entries (Trace.seen (some mode) step.kind step.call.count? c (c.perform step)
    (c.events step))

/-- What a run of traced calls logs. -/
def loggedAll (mode : Trace.Mode) (c : Context σ) (steps : List (Step σ)) : List Log.Entry :=
  (c.visits steps).flatMap fun v => v.1.logged mode v.2

/-- What the function's own code logs in a run of calls. -/
def ownAll (c : Context σ) (steps : List (Step σ)) : List Log.Entry :=
  (c.visits steps).flatMap fun v => v.1.own v.2

variable (c : Context σ)

/-! ### Each callback -/

/-- A step of a group logs what its code does, and what the wrapper has to say of it. -/
theorem entries_stepWith (part : Stage) (code : σ → Option Code → Run σ Code Unit) (flags : Flags)
    (call : Call) (hpart : part.name = call.part) :
    Event.entries (stepWith part code c flags).events
      = match c.cell with
        | none => [call.unprepared]
        | some cell => (code cell.state flags.code?).trail.logged call := by
  unfold stepWith Call.unprepared Trail.logged Run.trail
  rw [← hpart]
  cases c.cell with
  | none => rfl
  | some cell =>
    dsimp only
    cases (code cell.state flags.code?).outcome with
    | ok u => exact (List.append_nil _).symm
    | err e => exact (List.append_nil _).symm
    | panic p =>
      refine (Event.entries_append _ _).trans ?_
      rw [Outcome.panic?, Option.map_some, Call.caught, ← hpart]
      rfl

theorem entries_initWith (args : List Argument) (run : Run Preparation String σ) :
    Event.entries (c.initWith args run).events = run.trail.logged (.init args) := by
  unfold initWith Trail.logged Run.trail
  cases run.outcome with
  | ok s => exact (List.append_nil _).symm
  | err text => exact (List.append_nil _).symm
  | panic p => exact Event.entries_append _ _

theorem entries_process (r : Routine σ) (args : List Argument) (flags : Flags) (area : ResultArea) :
    Event.entries (c.process r args flags area).events
      = match c.cell with
        | none => [(Call.process args flags area).unprepared]
        | some cell =>
          (r.process cell.state c.settings args flags.code?).trail.logged
            (.process args flags area) := by
  cases hcell : c.cell with
  | none => rw [process_unprepared r c args flags area hcell]; rfl
  | some cell =>
    rw [process_prepared r c args flags area hcell]
    dsimp only
    rw [Event.entries_append, Trail.logged, Run.trail]
    cases (r.process cell.state c.settings args flags.code?).outcome with
    | ok v => rw [Verdict.events_ofOutcome_ok]; rfl
    | err e => rfl
    | panic p => rfl

theorem entries_deinit (r : Routine σ) :
    Event.entries (c.deinit r).2
      = match c.cell with
        | none => []
        | some cell => (r.drop cell.state).trail.logged .deinit := by
  unfold deinit Trail.logged Run.trail
  cases c.cell with
  | none => rfl
  | some cell =>
    dsimp only
    cases (r.drop cell.state).outcome with
    | ok u => exact (List.append_nil _).symm
    | err e => exact e.elim
    | panic p => exact Event.entries_append _ _

/-- A call logs the trail of the code that it runs; without any, there may be a state to miss. -/
theorem entries_trail (step : Step σ) :
    Event.entries (c.events step)
      = match c.trail? step with
        | none => if step.call.needsState then [step.call.unprepared] else []
        | some trail => trail.logged step.call := by
  obtain ⟨r, call⟩ := step
  unfold events trail?
  cases call with
  | init args =>
    dsimp only
    unfold init
    cases Argument.typeError? args with
    | some e => rfl
    | none => exact c.entries_initWith args _
  | clear flags =>
    refine (c.entries_stepWith .clear _ flags (.clear flags) rfl).trans ?_
    cases c.cell <;> rfl
  | add args flags =>
    refine (c.entries_stepWith .add _ flags (.add args flags) rfl).trans ?_
    cases c.cell <;> rfl
  | remove args flags =>
    refine (c.entries_stepWith .remove _ flags (.remove args flags) rfl).trans ?_
    cases c.cell <;> rfl
  | process args flags area =>
    refine (c.entries_process r args flags area).trans ?_
    cases c.cell <;> rfl
  | deinit =>
    refine (c.entries_deinit r).trans ?_
    cases c.cell <;> rfl

/-- A call that needs a state runs code exactly if there is one. -/
theorem isSome_trail? {step : Step σ} (h : step.call.needsState = true) :
    (c.trail? step).isSome = c.hasState := by
  obtain ⟨r, call⟩ := step
  unfold trail? hasState
  cases call with
  | init args => cases h
  | deinit => cases h
  | _ => exact Option.isSome_map

/-- **What a call logs** is what the function's own code logs, and the wrapper after it. -/
theorem entries_events (step : Step σ) :
    Event.entries (c.events step) = c.own step ++ c.remarks step := by
  have hstate (hneeds : step.call.needsState = true) : (c.trail? step).isSome = c.hasState :=
    c.isSome_trail? hneeds
  rw [entries_trail, own, remarks, panic?, misses]
  cases htrail : c.trail? step with
  | none =>
    cases hneeds : step.call.needsState with
    | false => rfl
    | true =>
      rw [htrail] at hstate
      rw [← hstate hneeds]
      rfl
  | some trail =>
    dsimp only [Option.bind_some, Trail.logged]
    cases trail.panic? with
    | some p => rfl
    | none =>
      cases hneeds : step.call.needsState with
      | false => rfl
      | true =>
        rw [htrail] at hstate
        rw [← hstate hneeds]
        rfl

/-! ### One call -/

/-- A traced call. -/
structure Balanced (mode : Trace.Mode) (c : Context σ) (step : Step σ) : Prop where
  /-- It is logged from its start to its end, with all that both hands write in between, and with what
  it works on if there are dumps. -/
  around : ∃ received returned, (∀ e ∈ received ++ returned, Trace.Shows e)
    ∧ (mode.dumps = false → received ++ returned = [])
    ∧ c.logged mode step
      = Trace.entered step.kind mode.type :: (received ++ (c.own step ++ c.remarks step) ++ returned
        ++ [Trace.exited step.kind mode.type])
  /-- It has one start and one end. -/
  opens : (c.logged mode step).countP Trace.opens = (c.own step).countP Trace.opens + 1
  closes : (c.logged mode step).countP Trace.closes = (c.own step).countP Trace.closes + 1
  /-- A critical entry tells of a panic. -/
  critical : (c.logged mode step).countP (·.level = some .critical)
    = (c.own step).countP (·.level = some .critical) + if (c.panic? step).isSome then 1 else 0
  /-- An error tells of a state that is missing, and names the part of the function. -/
  error : (c.logged mode step).countP (·.level = some .error)
    = (c.own step).countP (·.level = some .error) + if c.misses step then 1 else 0
  unprepared : (c.logged mode step).count step.call.unprepared
    = (c.own step).count step.call.unprepared + if c.misses step then 1 else 0

/-- A call never has to tell of both, for only code that runs can panic. -/
theorem remarks_cases (step : Step σ) :
    (∃ p, c.panic? step = some p ∧ c.misses step = false ∧ c.remarks step = [step.call.caught p])
      ∨ (c.panic? step = none ∧ c.misses step = true ∧ c.remarks step = [step.call.unprepared])
      ∨ (c.panic? step = none ∧ c.misses step = false ∧ c.remarks step = []) := by
  unfold remarks
  cases hp : c.panic? step with
  | none =>
    cases hmisses : c.misses step with
    | false => exact .inr (.inr ⟨rfl, rfl, rfl⟩)
    | true => exact .inr (.inl ⟨rfl, rfl, rfl⟩)
  | some p =>
    refine .inl ⟨p, rfl, Bool.eq_false_iff.2 fun hmisses => ?_, rfl⟩
    obtain ⟨hneeds, hstate⟩ := Bool.and_eq_true_iff.1 hmisses
    obtain ⟨trail, htrail, -⟩ := Option.bind_eq_some_iff.1 hp
    rw [← c.isSome_trail? hneeds, htrail] at hstate
    cases hstate

/-- A traced call is logged from its start to its end, with what both hands write in between. -/
theorem logged_eq (mode : Trace.Mode) (step : Step σ) :
    ∃ received returned, (∀ e ∈ received ++ returned, Trace.Shows e)
      ∧ (mode.dumps = false → received ++ returned = [])
      ∧ c.logged mode step
        = Trace.entered step.kind mode.type :: (received ++ (c.own step ++ c.remarks step) ++ returned
          ++ [Trace.exited step.kind mode.type]) := by
  obtain ⟨received, returned, hshows, hdumps, hlogged⟩ :=
    Trace.entries_seen step.kind mode step.call.count? c (c.perform step) (c.events step)
  exact ⟨received, returned, hshows, hdumps, by rw [logged, hlogged, c.entries_events]⟩

/-- **The count of a kind of entries:** those of the function's own code, and of the wrapper's those that
are of the kind.  A kind is one that nothing is of that shows what a call works on. -/
theorem countP_logged (mode : Trace.Mode) (step : Step σ) {key : Log.Entry → Bool}
    (panics missing : Bool) (hshows : ∀ e, Trace.Shows e → key e = false)
    (hpanics : ∀ p, key (step.call.caught p) = panics)
    (hmissing : key step.call.unprepared = missing) :
    (c.logged mode step).countP key = (c.own step).countP key
      + ((if panics && (c.panic? step).isSome then 1 else 0)
        + (if missing && c.misses step then 1 else 0)
        + [Trace.entered step.kind mode.type, Trace.exited step.kind mode.type].countP key) := by
  obtain ⟨received, returned, hall, -, hlogged⟩ := c.logged_eq mode step
  have hnone (es : List Log.Entry) (hes : es ⊆ received ++ returned) : es.countP key = 0 := by
    refine List.countP_eq_zero.2 fun e he => ?_
    rw [hshows e (hall e (hes he))]
    exact Bool.false_ne_true
  have hremarks : (c.remarks step).countP key
      = (if panics && (c.panic? step).isSome then 1 else 0)
        + if missing && c.misses step then 1 else 0 := by
    rcases c.remarks_cases step with ⟨p, hp, hm, h⟩ | ⟨hp, hm, h⟩ | ⟨hp, hm, h⟩
    · simp [h, hp, hm, List.countP_cons, hpanics]
    · simp [h, hp, hm, List.countP_cons, hmissing]
    · simp [h, hp, hm]
  have hends : [Trace.entered step.kind mode.type, Trace.exited step.kind mode.type].countP key
      = [Trace.exited step.kind mode.type].countP key
        + if key (Trace.entered step.kind mode.type) then 1 else 0 := List.countP_cons
  rw [hlogged, List.countP_cons, List.countP_append, List.countP_append, List.countP_append,
    List.countP_append, hnone _ (List.subset_append_left _ _),
    hnone _ (List.subset_append_right _ _), hremarks, hends]
  omega

/-- **Every call is traced as it should be,** however it ends and whatever the function's code writes. -/
theorem balanced (mode : Trace.Mode) (step : Step σ) : Balanced mode c step where
  around := c.logged_eq mode step
  opens := by
    rw [c.countP_logged mode step false false (fun e he => he.opens)
      (fun p => (step.call.inner_caught p).opens) step.call.inner_unprepared.opens]
    simp
  closes := by
    rw [c.countP_logged mode step false false (fun e he => he.closes)
      (fun p => (step.call.inner_caught p).closes) step.call.inner_unprepared.closes]
    simp
  critical := by
    rw [c.countP_logged mode step true false (fun e he => by simp [he.level]) (fun p => by rfl)
      (by rfl)]
    simp [Trace.entered, Trace.exited]
  error := by
    rw [c.countP_logged mode step false true (fun e he => by simp [he.level]) (fun p => by rfl)
      (by rfl)]
    simp [Trace.entered, Trace.exited]
  unprepared := by
    have hlevel {e : Log.Entry} (he : e.level ≠ some .error) :
        (e == step.call.unprepared) = false :=
      beq_false_of_ne fun h => he (congrArg Log.Entry.level h)
    have hends : [Trace.entered step.kind mode.type, Trace.exited step.kind mode.type].countP
        (· == step.call.unprepared) = 0 := by
      simp [hlevel, Trace.entered, Trace.exited]
    rw [List.count]
    refine (c.countP_logged mode step false true (fun e he => hlevel ?_) (fun p => hlevel ?_)
      ?_).trans ?_
    · rw [he.level]
      nofun
    · exact nofun
    · exact BEq.rfl
    · simp [hends]

/-! ### Runs of calls -/

variable {c} in
/-- The count of a kind of entries over a run adds up from its calls. -/
theorem countP_loggedAll {mode : Trace.Mode} {key : Log.Entry → Bool} (due : Context σ → Step σ → Bool)
    (h : ∀ (c : Context σ) (step : Step σ), (c.logged mode step).countP key
      = (c.own step).countP key + if due c step then 1 else 0) (steps : List (Step σ)) :
    (c.loggedAll mode steps).countP key
      = (c.ownAll steps).countP key + (c.visits steps).countP fun v => due v.1 v.2 := by
  induction steps generalizing c with
  | nil => rfl
  | cons step steps ih =>
    have hlog : c.loggedAll mode (step :: steps)
        = c.logged mode step ++ (c.perform step).loggedAll mode steps := rfl
    have hown : c.ownAll (step :: steps) = c.own step ++ (c.perform step).ownAll steps := rfl
    rw [hlog, hown, visits, List.countP_append, List.countP_append, List.countP_cons, h, ih]
    dsimp only
    omega

theorem length_visits (steps : List (Step σ)) : (c.visits steps).length = steps.length := by
  induction steps generalizing c with
  | nil => rfl
  | cons step steps ih => exact congrArg (· + 1) (ih (c.perform step))

end Context

/-! ### Sessions -/

namespace Session

variable {σ : Type} (s : Session σ)

/-- The call that an operation makes unless it is refused, if the library exports the callback. -/
def call? : Operation → Option Call
  | .init items => some (.init (items.map Sample.place))
  | .process row => some (.process (s.laidOut row) ⟨some 0, some 0⟩ s.area)
  | .begin => some (.clear GroupFlags.clear.toFlags)
  | .add row => some (.add (s.laidOut row) s.flags.toFlags)
  | .remove row => some (.remove (s.laidOut row) s.flags.toFlags)
  | .finish => some (.process s.arguments ⟨some 0, some s.flags.error⟩ s.area)
  | .deinit => some .deinit
  | _ => none

/-- What is heard of a call. -/
def heard (call : Call) : List Event :=
  Trace.seen s.traced (call.kind s.routine.returns) call.count? s.context
    (s.context.perform ⟨s.routine, call⟩) (s.context.events ⟨s.routine, call⟩)

theorem events_entered (reply : InitReply σ) :
    (s.entered reply).events = s.seen .init (some s.items.length) reply.context reply.events := by
  unfold entered
  dsimp only
  cases reply.message <;> rfl

theorem events_value (error : UInt8) :
    (s.value error).events = s.heard (.process s.arguments ⟨some 0, some error⟩ s.area) := by
  have hlength : s.arguments.length = s.items.length := List.length_map _
  rw [heard, Call.count?, hlength]
  rfl

/-- **What is heard of an operation** that is not refused is its call, if the library exports that. -/
theorem events_reply {op : Operation} {call : Call} (hcall : s.call? op = some call)
    (h : s.misuse? op = none) :
    (s.reply op).events = if s.exports op then s.heard call else [] := by
  have hrow (row : List Datum) : (s.laidOut row).length = (s.withRow row).items.length :=
    List.length_map _
  cases op with
  | init items =>
    obtain rfl := Option.some.inj hcall
    have hinit : ¬ s.initialized = true := by simpa [misuse?] using h
    change (s.init items).events = _
    rw [init, if_neg hinit, exports, heard, Call.count?, List.length_map]
    dsimp only
    cases hsymbol : s.symbols.init with
    | none => rfl
    | some a => exact { s with items }.events_entered _
  | process row =>
    obtain rfl := Option.some.inj hcall
    rw [misuse?] at h
    change (s.process row).events = _
    rw [process, onRow_eq, h]
    exact (s.withRow row).events_value 0
  | begin =>
    obtain rfl := Option.some.inj hcall
    rw [misuse?] at h
    split at h
    case isTrue => cases h
    case isFalse hinit =>
      have hclear : ¬ s.symbols.clear.isNone = true := by simpa using h
      change s.begin.events = _
      rw [begin, s.whenInitialized_passed (by simpa using hinit), if_neg hclear]
      exact List.append_nil _
  | add row =>
    obtain rfl := Option.some.inj hcall
    rw [misuse?] at h
    change (s.add row).events = _
    rw [add, rowStep_eq, h, heard, Call.count?, hrow]
    rfl
  | remove row =>
    obtain rfl := Option.some.inj hcall
    rw [misuse?] at h
    change (s.remove row).events = _
    rw [remove, rowStep_eq, h, heard, Call.count?, hrow]
    rfl
  | finish =>
    obtain rfl := Option.some.inj hcall
    have hinit : s.initialized = true := by simpa [misuse?] using h
    change s.finish.events = _
    rw [finish, s.whenInitialized_passed hinit]
    exact s.events_value _
  | deinit =>
    obtain rfl := Option.some.inj hcall
    have hinit : s.initialized = true := by simpa [misuse?] using h
    change s.deinit.events = _
    rw [deinit, s.whenInitialized_passed hinit, exports]
    dsimp only
    cases s.symbols.deinit <;> rfl
  | _ => cases hcall

/-- **Traces are balanced.**  In every run of callbacks on a context, in any order and however each of them
ends, every call is `Balanced`.  Over the run, what the function's own code wrote aside, as many entries
open a call and close one as there are calls, as many are critical as calls in which the code panicked, and
as many errors tell of a missing state as calls needed one where there was none.  A session whose calls are
traced logs its calls like that, one for each operation that is not refused and whose callback is
exported. -/
theorem traces_are_balanced {σ : Type} (mode : Trace.Mode) :
    (∀ (c : Context σ) (steps : List (Step σ)),
      let log := c.loggedAll mode steps
      let own := c.ownAll steps
      (∀ v ∈ c.visits steps, v.1.Balanced mode v.2)
        ∧ log.countP Trace.opens = own.countP Trace.opens + steps.length
        ∧ log.countP Trace.closes = own.countP Trace.closes + steps.length
        ∧ log.countP (·.level = some .critical) = own.countP (·.level = some .critical)
          + (c.visits steps).countP (fun v => (v.1.panic? v.2).isSome)
        ∧ log.countP (·.level = some .error) = own.countP (·.level = some .error)
          + (c.visits steps).countP (fun v => v.1.misses v.2))
    ∧ ∀ (s : Session σ) (op : Operation) (call : Call), s.traced = some mode →
      s.call? op = some call → Event.entries (s.reply op).events
        = if (s.misuse? op).isNone && s.exports op then s.context.logged mode ⟨s.routine, call⟩
          else [] := by
  refine ⟨fun c steps => ?_, fun s op call htraced hcall => ?_⟩
  · intro log own
    have hall : (c.visits steps).countP (fun _ => true) = steps.length := by
      rw [List.countP_true, c.length_visits]
    refine ⟨fun v _ => v.1.balanced mode v.2, ?_, ?_, ?_, ?_⟩
    · rw [← hall]
      exact Context.countP_loggedAll (fun _ _ => true) (fun c step => (c.balanced mode step).opens)
        steps
    · rw [← hall]
      exact Context.countP_loggedAll (fun _ _ => true) (fun c step => (c.balanced mode step).closes)
        steps
    · exact Context.countP_loggedAll (fun c step => (c.panic? step).isSome)
        (fun c step => (c.balanced mode step).critical) steps
    · exact Context.countP_loggedAll Context.misses (fun c step => (c.balanced mode step).error) steps
  · cases hmisuse : s.misuse? op with
    | some m =>
      rw [s.reply_of_misuse hmisuse]
      rfl
    | none =>
      rw [s.events_reply hcall hmisuse, heard, htraced]
      cases s.exports op <;> rfl

/-- A function that follows a script, through a panic and past the end of its state. -/
theorem traces_are_balanced_probe :
    let code := Scripted.routine ⟨"probe_int", ⟨.int, false⟩, false, true⟩
    let steps : List (Step Nat) :=
      [⟨code .idle, .init []⟩, ⟨code ⟨[], .panic (.text "lost"), none⟩, .process [] .clear ⟨none, 0⟩⟩,
        ⟨code .idle, .deinit⟩, ⟨code .idle, .add [] .clear⟩]
    let symbols : Symbols Unit :=
      ⟨"probe_int", false, some (), some (), some ⟨.longlong, ()⟩, none, none, none⟩
    let mode : Trace.Mode := ⟨"Probe", true⟩
    let s : Session Nat := ⟨code .idle, some mode, symbols, .fresh, [], [],
      List.replicate resultSize 0, false, .clear⟩
    let log := Context.fresh.loggedAll mode steps
    log.countP Trace.opens = 4 ∧ log.countP Trace.closes = 4
      ∧ log.countP (·.level = some .critical) = 1 ∧ log.countP (·.level = some .error) = 1
      ∧ Event.entries (s.reply (.init [])).events
        = s.context.logged mode ⟨s.routine, .init []⟩ := by
  intro code steps symbols mode s log
  have htraces := traces_are_balanced (σ := Nat) mode
  obtain ⟨-, hopens, hcloses, hcritical, herror⟩ := htraces.1 .fresh steps
  exact ⟨hopens, hcloses, hcritical, herror, htraces.2 s (.init []) (.init []) rfl rfl⟩

/-- Code that ends well may log as the wrapper would: that it is entered and left, and that all is
lost. -/
theorem own_entries_count_too :
    let mode : Trace.Mode := ⟨"Probe", true⟩
    let lost : Log.Entry := ⟨some .critical, "all is lost"⟩
    let actions := [lost, Trace.entered .init mode.type, Trace.exited .init mode.type].map Action.log
    let step : Step Nat :=
      ⟨Scripted.routine ⟨"probe_int", ⟨.int, false⟩, false, true⟩ ⟨actions, .succeed .null, none⟩,
        .init []⟩
    let log := Context.fresh.logged mode step
    Context.fresh.panic? step = none ∧ log.countP (·.level = some .critical) = 1
      ∧ log.countP Trace.opens = 2 ∧ log.countP Trace.closes = 2 := by
  intro mode lost actions step log
  have hbalanced := Context.fresh.balanced mode step
  have hown : Context.fresh.own step
      = [lost, Trace.entered .init mode.type, Trace.exited .init mode.type] := rfl
  have hlost : Trace.Inner lost := .of_head (by simp [lost]; exact ⟨rfl, rfl⟩) (by decide)
  refine ⟨rfl, hbalanced.critical.trans rfl, hbalanced.opens.trans ?_, hbalanced.closes.trans ?_⟩
  · rw [hown]
    simp [hlost.opens]
  · rw [hown]
    simp [hlost.closes]

end Session
end Loadable
