/-
# One protocol for all handlers

Six handlers hand values to the server.  What they leave depends only on how the function's code ends
(`Verdict`): in a value, in NULL, in an error or in a panic, and there is the call that never reaches
the code because there is no state.  `protocol` says what each of these leaves, whatever the carrier
and whether NULL can be, and `ofReturns_eq_protocol` that every handler keeps to it: also where NULL
is told behind the guard (numbers) and not within it (bytes).
-/

import Loadable.Proofs.Observation

namespace Loadable

/-- How a call for a value ends. -/
inductive Verdict (P : Type) where
  | value (v : P)
  | null
  | failed
  | panicked (p : Panic)
  /-- There was no state, and the code was not run. -/
  | unprepared

namespace Verdict

variable {P : Type}

/-- How a call ends whose code was run. -/
@[simp] def ofOutcome (r : Returns) : Outcome Unit r.Value → Verdict r.carrier.Payload
  | .ok v =>
    match r.toOption v with
    | some payload => value payload
    | none => null
  | .err () => failed
  | .panic p => panicked p

/-- The flags after a call. -/
@[simp] def flags (f : Flags) : Verdict P → Flags
  | value _ => f
  | null => { f with isNull := f.isNull.map fun _ => 1 }
  | failed => { f with error := f.error.map fun _ => 1 }
  | panicked _ => ⟨f.isNull.map fun _ => 1, f.error.map fun _ => 1⟩
  | unprepared => { f with error := f.error.map fun _ => 1 }

/-- What is returned, and the server's buffer and length: a value is delivered, else there is zero and
the rest is as it was. -/
@[simp] def delivery (c : Carrier) (area : ResultArea) : Verdict c.Payload → Returned × ResultArea
  | value v => c.deliver v area
  | _ => (.zero c, area)

/-- What is kept beside the state. -/
@[simp] def stash (c : Carrier) (kept : Option Bytes) : Verdict c.Payload → Option Bytes
  | value v => c.stash (some v) kept
  | null => c.stash none kept
  | _ => kept

/-- What a handler itself writes to the log. -/
@[simp] def events : Verdict P → List Event
  | panicked p => [Loadable.panicked "process" p]
  | unprepared => [withoutInit "process"]
  | _ => []

@[simp] theorem notes_events (v : Verdict P) : Event.notes v.events = [] := by cases v <;> rfl

theorem events_ofOutcome_ok (r : Returns) (v : r.Value) : (ofOutcome r (.ok v)).events = [] := by
  rw [ofOutcome]
  cases r.toOption v <;> rfl

end Verdict

variable {σ : Type}

/-- The reference: what a call for a value leaves, by the verdict on it. -/
def protocol (r : Returns) : Handler σ r.Value := fun code c flags area =>
  match c.cell with
  | none =>
    let verdict : Verdict r.carrier.Payload := .unprepared
    ⟨c, (verdict.delivery r.carrier area).1, verdict.flags flags,
      (verdict.delivery r.carrier area).2, verdict.events⟩
  | some cell =>
    let run := code cell.state flags.code?
    let verdict := Verdict.ofOutcome r run.outcome
    ⟨{ c with cell := some ⟨run.state, verdict.stash r.carrier cell.stash⟩ },
      (verdict.delivery r.carrier area).1, verdict.flags flags,
      (verdict.delivery r.carrier area).2, run.events ++ verdict.events⟩

/-! ### The handlers, one by one

A handler and the protocol run the same code, so only the way it ends is looked at. -/

namespace Handler

variable (c : Context σ) (flags : Flags) (area : ResultArea)

/-- A carrier that returns by value: the server's buffer is left alone and nothing is kept. -/
structure ByValue (carrier : Carrier) (returned : carrier.Payload → Returned) : Prop where
  deliver : ∀ v area, carrier.deliver v area = (returned v, area)
  stash : ∀ v kept, carrier.stash v kept = kept

theorem byValue_int : ByValue .int Returned.int := ⟨fun _ _ => rfl, fun _ _ => rfl⟩

theorem byValue_real : ByValue .real Returned.real := ⟨fun _ _ => rfl, fun _ _ => rfl⟩

theorem number_eq_protocol {carrier : Carrier} {returned : carrier.Payload → Returned}
    (h : ByValue carrier returned) (code : Valuing σ carrier.Payload) :
    number returned (.zero carrier) code c flags area
      = protocol ⟨carrier, false⟩ code c flags area := by
  unfold number protocol Context.guarded Workspace.run
  cases c.cell with
  | none => rfl
  | some cell =>
    dsimp only
    cases (code cell.state flags.code?).outcome with
    | ok v => simp [Guarded.reply, Returns.toOption, h.deliver, h.stash]
    | err e => simp [Guarded.reply, Flags.setError]
    | panic p => simp [Guarded.reply, Flags.setError, Flags.setNull]

theorem optionalNumber_eq_protocol {carrier : Carrier} {returned : carrier.Payload → Returned}
    (h : ByValue carrier returned) (code : Valuing σ (Option carrier.Payload)) :
    optionalNumber returned (.zero carrier) code c flags area
      = protocol ⟨carrier, true⟩ code c flags area := by
  unfold optionalNumber protocol Context.guarded Workspace.run
  cases c.cell with
  | none => rfl
  | some cell =>
    dsimp only
    cases (code cell.state flags.code?).outcome with
    | ok v =>
      -- NULL is told here, after the guard has let a value through
      cases v with
      | none => simp [Guarded.reply, Returns.toOption, Flags.setNull, h.stash]
      | some v => simp [Guarded.reply, Returns.toOption, h.deliver, h.stash]
    | err e => simp [Guarded.reply, Flags.setError]
    | panic p => simp [Guarded.reply, Flags.setError, Flags.setNull]

/-- Within the guard a value is handed on as the protocol says, and never fails to be. -/
def Hands (r : Returns) (next : r.Value → Workspace σ → Run (Workspace σ) Unit Pointer) : Prop :=
  ∀ v w, let verdict := Verdict.ofOutcome r (.ok v)
    ∃ p, .string p = (verdict.delivery r.carrier w.area).1
      ∧ next v w = ⟨⟨{ w.cell with stash := verdict.stash r.carrier w.cell.stash },
        verdict.flags w.flags, (verdict.delivery r.carrier w.area).2⟩, .ok p, []⟩

/-- **Handlers for bytes** differ in what they do with a value only. -/
theorem bytes_eq_protocol (r : Returns) (hzero : Returned.zero r.carrier = .string .null)
    {next : r.Value → Workspace σ → Run (Workspace σ) Unit Pointer} (hnext : Hands r next)
    (code : Valuing σ r.Value) :
    let g := c.guarded flags area fun error w => (w.run code error).andThen next
    g.reply (.string (g.value.getD .null)) = protocol r code c flags area := by
  unfold protocol Context.guarded Workspace.run Run.andThen
  cases c.cell with
  | none => simp [Guarded.reply, Flags.setError, hzero]
  | some cell =>
    dsimp only
    cases (code cell.state flags.code?).outcome with
    | ok v =>
      obtain ⟨p, hp, hv⟩ := hnext v ⟨⟨(code cell.state flags.code?).state, cell.stash⟩, flags, area⟩
      dsimp only
      rw [hv, ← hp, Verdict.events_ofOutcome_ok]
      rfl
    | err e => simp [Guarded.reply, Flags.setError, hzero]
    | panic p => simp [Guarded.reply, Flags.setError, Flags.setNull, hzero]

theorem borrowed_eq_protocol (code : Valuing σ Buffer) :
    borrowed code c flags area = protocol ⟨.borrowed, false⟩ code c flags area :=
  bytes_eq_protocol c flags area ⟨.borrowed, false⟩ rfl (fun _ _ => ⟨_, rfl, rfl⟩) code

theorem optionalBorrowed_eq_protocol (code : Valuing σ (Option Buffer)) :
    optionalBorrowed code c flags area = protocol ⟨.borrowed, true⟩ code c flags area := by
  refine bytes_eq_protocol c flags area ⟨.borrowed, true⟩ rfl (fun v w => ?_) code
  cases v <;> exact ⟨_, rfl, rfl⟩

theorem owned_eq_protocol (code : Valuing σ Bytes) :
    owned code c flags area = protocol ⟨.owned, false⟩ code c flags area :=
  bytes_eq_protocol c flags area ⟨.owned, false⟩ rfl (fun _ _ => ⟨_, rfl, rfl⟩) code

/-- What was kept is given up for NULL too. -/
theorem optionalOwned_eq_protocol (code : Valuing σ (Option Bytes)) :
    optionalOwned code c flags area = protocol ⟨.owned, true⟩ code c flags area := by
  refine bytes_eq_protocol c flags area ⟨.owned, true⟩ rfl (fun v w => ?_) code
  cases v <;> exact ⟨_, rfl, rfl⟩

/-- **Every handler keeps to the protocol.** -/
theorem ofReturns_eq_protocol (r : Returns) (code : Valuing σ r.Value) :
    ofReturns r code c flags area = protocol r code c flags area := by
  obtain ⟨carrier, optional⟩ := r
  cases carrier <;> cases optional
  · exact number_eq_protocol c flags area byValue_int code
  · exact optionalNumber_eq_protocol c flags area byValue_int code
  · exact number_eq_protocol c flags area byValue_real code
  · exact optionalNumber_eq_protocol c flags area byValue_real code
  · exact borrowed_eq_protocol c flags area code
  · exact optionalBorrowed_eq_protocol c flags area code
  · exact owned_eq_protocol c flags area code
  · exact optionalOwned_eq_protocol c flags area code

end Handler

namespace Context

variable (r : Routine σ) (c : Context σ) (args : List Argument) (flags : Flags)
  (area : ResultArea)

/-- The call for a value keeps to the protocol. -/
theorem process_eq_protocol :
    c.process r args flags area
      = protocol r.returns (fun s e => r.process s c.settings args e) c flags area :=
  Handler.ofReturns_eq_protocol c flags area r.returns _

/-- A call for a value without a state. -/
theorem process_unprepared (h : c.cell = none) :
    c.process r args flags area
      = ⟨c, .zero r.returns.carrier, { flags with error := flags.error.map fun _ => 1 }, area,
        [withoutInit "process"]⟩ := by
  rw [process_eq_protocol, protocol, h]
  rfl

/-- A call for a value with a state. -/
theorem process_prepared {cell : Cell σ} (h : c.cell = some cell) :
    let run := r.process cell.state c.settings args flags.code?
    let verdict := Verdict.ofOutcome r.returns run.outcome
    c.process r args flags area
      = ⟨{ c with cell := some ⟨run.state, verdict.stash r.returns.carrier cell.stash⟩ },
        (verdict.delivery r.returns.carrier area).1, verdict.flags flags,
        (verdict.delivery r.returns.carrier area).2, run.events ++ verdict.events⟩ := by
  intro run verdict
  rw [process_eq_protocol, protocol, h]

@[simp] theorem settings_process :
    (c.process r args flags area).context.settings = c.settings := by
  cases h : c.cell with
  | none => rw [process_unprepared r c args flags area h]
  | some cell => rw [process_prepared r c args flags area h]

@[simp] theorem hasState_process :
    (c.process r args flags area).context.hasState = c.hasState := by
  cases h : c.cell with
  | none => rw [process_unprepared r c args flags area h]
  | some cell => rw [process_prepared r c args flags area h, hasState, hasState, h]; rfl

/-- A call for a value leaves the state as its code does. -/
theorem cell_process {cell : Cell σ} (h : c.cell = some cell) :
    ∃ stash, (c.process r args flags area).context.cell
      = some ⟨(r.process cell.state c.settings args flags.code?).state, stash⟩ :=
  ⟨_, by rw [process_prepared r c args flags area h]⟩

/-- Watching changes only the events of a call for a value. -/
theorem process_observed :
    c.process r.observed args flags area
      = { c.process r args flags area with
          events := (c.process r.observed args flags area).events } := by
  cases h : c.cell with
  | none =>
    rw [process_unprepared r.observed c args flags area h,
      process_unprepared r c args flags area h]
    rfl
  | some cell =>
    rw [process_prepared r.observed c args flags area h, process_prepared r c args flags area h]
    rfl

/-- A call for a value runs the code exactly if there is a state. -/
theorem notes_process :
    Event.notes (c.process r.observed args flags area).events
      = if c.hasState then [.ofCall .process flags.code? c.settings (some args)] else [] := by
  cases h : c.cell with
  | none =>
    rw [process_unprepared r.observed c args flags area h, hasState, h]
    rfl
  | some cell =>
    rw [process_prepared r.observed c args flags area h, hasState, h, Event.notes_append,
      Verdict.notes_events, List.append_nil]
    exact Run.notes_noted _ _

/-- **One protocol for every function, state and argument list, whatever the flags and the server's
buffer.**  The settings stay, a state stays in its place, and the code runs exactly if there is one,
on the arguments as they are and told of the error byte unless that is zero.  Without a state the
outcome is that of an error.  The arguments cannot change: a reply has no place for them. -/
theorem process_follows_protocol :
    let reply := c.process r args flags area
    let zero := Returned.zero r.returns.carrier
    let nullSet := flags.isNull.map fun _ => (1 : UInt8)
    let errorSet := flags.error.map fun _ => (1 : UInt8)
    reply.context.settings = c.settings ∧ reply.context.hasState = c.hasState
      ∧ Event.notes (c.process r.observed args flags area).events
        = (if c.hasState then
            [.called .process 0 (flags.error.bind Code.told) c.settings (some args)] else [])
      ∧ match c.cell with
        | none =>
          reply = ⟨c, zero, ⟨flags.isNull, errorSet⟩, area,
            [.logged .error "process called without a successful init"]⟩
        | some cell =>
          let run := r.process cell.state c.settings args flags.code?
          ∃ stash, let left : Context σ := { c with cell := some ⟨run.state, stash⟩ }
            match run.outcome with
            | .ok v =>
              match r.returns.toOption v with
              | some payload =>
                let delivered := r.returns.carrier.deliver payload area
                reply = ⟨left, delivered.1, flags, delivered.2, run.events⟩
              | none => reply = ⟨left, zero, ⟨nullSet, flags.error⟩, area, run.events⟩
            | .err () => reply = ⟨left, zero, ⟨flags.isNull, errorSet⟩, area, run.events⟩
            | .panic p =>
              reply = ⟨left, zero, ⟨nullSet, errorSet⟩, area, run.events
                ++ [.logged .critical ("process function panicked: " ++ p.message)]⟩ := by
  intro reply zero nullSet errorSet
  refine ⟨settings_process r c args flags area, hasState_process r c args flags area, ?_, ?_⟩
  · rw [notes_process, Note.ofCall, Flags.map_val_code?]
  cases hc : c.cell with
  | none => exact process_unprepared r c args flags area hc
  | some cell =>
    have hreply := process_prepared r c args flags area hc
    dsimp only
    cases ho : (r.process cell.state c.settings args flags.code?).outcome with
    | ok v =>
      cases hv : r.returns.toOption v with
      | some payload =>
        refine ⟨r.returns.carrier.stash (some payload) cell.stash, ?_⟩
        simpa [ho, hv] using hreply
      | none =>
        refine ⟨r.returns.carrier.stash none cell.stash, ?_⟩
        simpa [ho, hv] using hreply
    | err e =>
      refine ⟨cell.stash, ?_⟩
      simpa [ho] using hreply
    | panic p =>
      have hentry : Event.logged .critical ("process function panicked: " ++ p.message)
          = panicked "process" p := rfl
      refine ⟨cell.stash, ?_⟩
      dsimp only
      rw [hentry]
      simpa [ho] using hreply

end Context

end Loadable
