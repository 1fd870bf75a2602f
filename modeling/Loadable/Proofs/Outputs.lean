/-
# What calls for a value come to

The server makes one output of what a call for a value leaves: the flags, what was returned and its own
buffer.  By the protocol these depend on the verdict on the call alone, so the output does too, but for
the room in the buffer (`Context.ofReply_process`): a value arrives as it was returned, NULL as NULL, and
everything else is an error, as is all that is asked for with an error.  What does not arrive is the string
of a value that is given up with it (`Buffer.lost`).  A session gives that output for a row and for
a group, and whatever output an operation gives is that of a call for a value on its way
(`Session.came_of_mem_outputs`).
-/

import Loadable.Proofs.Moves

namespace Loadable

/-- Whether a value has taken its string with it when the server reads, if it is given up: it held the
bytes itself, and there was no room to copy them to. -/
def Buffer.lost (room : Option Nat) (value : Buffer) : Bool :=
  value.owns && !room.any (value.toBytes.length ≤ ·)

/-- A string behind a reference is not lost. -/
theorem Buffer.lost_of_not_owns {value : Buffer} (h : value.owns = false) (room : Option Nat) :
    value.lost room = false := by
  rw [lost, h]
  rfl

/-- The output of a value, by the room there is for a string. -/
def Carrier.output (room : Option Nat) : (c : Carrier) → c.Payload → Output
  | .int, v => .int v
  | .real, v => .real v
  | .borrowed, v => if v.lost room then .undefined else .bytes v.toBytes
  | .owned, v => .bytes v

/-- A value is no NULL, be it empty or zero. -/
theorem Carrier.output_ne_null (c : Carrier) (room : Option Nat) (v : c.Payload) :
    c.output room v ≠ .null := by
  cases c with
  | int => nofun
  | real => nofun
  | owned => nofun
  | borrowed =>
    change (if v.lost room then Output.undefined else .bytes v.toBytes) ≠ .null
    split <;> nofun

namespace Output

/-- A string arrives, in the server's buffer or where it was left. -/
theorem ofReturned_string (bs : Bytes) (area : ResultArea) :
    ofReturned (.string (area.deliver bs).1) (area.deliver bs).2 = bytes bs := by
  have hread := area.read_deliver bs
  rw [area.pointer_deliver] at hread ⊢
  split at hread
  all_goals simp only [*, if_true, reduceIte, ofReturned, Bool.false_eq_true]

/-- The string of a value that is given up arrives unless it goes with the value. -/
theorem ofReturned_lend (value : Buffer) (area : ResultArea) :
    ofReturned (.string (area.lend value).1) (area.lend value).2
      = if value.lost area.room then undefined else bytes value.toBytes := by
  have harrives := ofReturned_string value.toBytes area
  cases howns : value.owns with
  | false =>
    rw [Buffer.lost_of_not_owns howns, area.lend_of_not_owns howns]
    exact harrives
  | true =>
    rw [area.lend_snd, area.lend_of_owns howns, Buffer.lost, howns]
    rw [area.pointer_deliver] at harrives ⊢
    split at harrives
    case isTrue hfits => simpa [hfits, Pointer.givenUp] using harrives
    case isFalse hlong => simp [hlong, Pointer.givenUp, ofReturned, ResultArea.read]

/-- **A value arrives** as it was handed to the server, or is lost. -/
theorem ofReturned_deliver (c : Carrier) (v : c.Payload) (area : ResultArea) :
    ofReturned (c.deliver v area).1 (c.deliver v area).2 = c.output area.room v := by
  cases c with
  | int => rfl
  | real => rfl
  | borrowed => exact ofReturned_lend v area
  | owned => exact ofReturned_string v area

end Output

/-- What the server makes of a call, by the verdict on it, the room there is for a string and the error it
was made with. -/
def Verdict.output {c : Carrier} (room : Option Nat) (error : UInt8) : Verdict c.Payload → Output
  | value v => if error = 0 then c.output room v else .error
  | null => if error = 0 then .null else .error
  | _ => .error

/-- The output of a reply that keeps to a verdict. -/
theorem Verdict.ofReply_eq_output {σ : Type} {c : Carrier} {verdict : Verdict c.Payload}
    {error : UInt8} {area : ResultArea} {reply : ProcessReply σ}
    (hflags : reply.flags = verdict.flags ⟨some 0, some error⟩)
    (hreturned : reply.returned = (verdict.delivery c area).1)
    (harea : reply.area = (verdict.delivery c area).2) :
    Output.ofReply reply = verdict.output area.room error := by
  rw [Output.ofReply, hflags, hreturned, harea]
  cases verdict with
  | value v => by_cases h : error = 0 <;> simp [output, h, Output.ofReturned_deliver]
  | null => by_cases h : error = 0 <;> simp [output, h]
  | failed => rfl
  | panicked p => rfl
  | unprepared => rfl

namespace Context

variable {σ : Type} (r : Routine σ) (c : Context σ) (args : List Argument)

/-- The verdict on a call for a value. -/
def verdict (error : Option Code) : Verdict r.returns.carrier.Payload :=
  match c.cell with
  | none => .unprepared
  | some cell => .ofOutcome r.returns (r.process cell.state c.settings args error).outcome

/-- A call leaves flags, a returned value and a buffer by its verdict. -/
theorem process_verdict (flags : Flags) (area : ResultArea) :
    let verdict := c.verdict r args flags.code?
    let reply := c.process r args flags area
    reply.flags = verdict.flags flags
      ∧ reply.returned = (verdict.delivery r.returns.carrier area).1
      ∧ reply.area = (verdict.delivery r.returns.carrier area).2 := by
  unfold verdict
  cases h : c.cell with
  | none =>
    rw [process_unprepared r c args flags area h]
    exact ⟨rfl, rfl, rfl⟩
  | some cell =>
    rw [process_prepared r c args flags area h]
    exact ⟨rfl, rfl, rfl⟩

/-- **The output of a call** depends on its verdict, the room for a string and the error it is made with. -/
theorem ofReply_process (error : UInt8) (area : ResultArea) :
    Output.ofReply (c.process r args ⟨some 0, some error⟩ area)
      = (c.verdict r args (Code.ofByte? error)).output area.room error := by
  obtain ⟨hflags, hreturned, harea⟩ := c.process_verdict r args ⟨some 0, some error⟩ area
  exact Verdict.ofReply_eq_output hflags hreturned harea

end Context

theorem Except.mem_toList_toOption {ε α : Type} {r : Except ε α} {a : α} :
    a ∈ r.toOption.toList ↔ r = .ok a := by
  cases r <;> simp [Except.toOption, eq_comm]

/-- Where one operation goes on after another and succeeds, both did, and the second gives the result. -/
theorem Reply.andThen_ok {σ α β : Type} {r : Reply σ α} {next : α → Session σ → Reply σ β} {b : β}
    (h : (r.andThen next).result = .ok b) :
    ∃ a, r.result = .ok a ∧ (next a r.session).result = .ok b
      ∧ (r.andThen next).session = (next a r.session).session := by
  unfold andThen at h ⊢
  cases hr : r.result with
  | error e => simp [hr] at h
  | ok a => exact ⟨a, rfl, by simpa [hr] using h, rfl⟩

namespace Session

variable {σ : Type} (s : Session σ)

/-- The verdict on a call for a value with an error. -/
def verdict (args : List Argument) (error : UInt8) : Verdict s.routine.returns.carrier.Payload :=
  s.context.verdict s.routine args (Code.ofByte? error)

theorem result_value (error : UInt8) :
    (s.value error).result = .ok ((s.verdict s.arguments error).output s.area.room error) :=
  congrArg Except.ok (s.context.ofReply_process s.routine s.arguments error _)

/-- The value of a row that fits. -/
theorem result_process {row : List Datum} (h : s.accepts row = true) :
    (s.process row).result = .ok ((s.verdict (s.laidOut row) 0).output s.area.room 0) := by
  rw [process, onRow_of_accepts s h]
  exact (s.withRow row).result_value 0

/-- The value of a group. -/
theorem result_finish (h : s.initialized = true) :
    s.finish.result = .ok ((s.verdict s.arguments s.flags.error).output s.area.room s.flags.error) := by
  rw [finish, whenInitialized, if_pos h]
  exact s.result_value s.flags.error

/-- The value of a group in which no step has failed. -/
theorem finish_of_cell {r : Routine σ} (hroutine : s.routine = r) (hinit : s.initialized = true)
    (herror : s.flags.error = 0) {cell : Cell σ} (hcell : s.context.cell = some cell) :
    s.finish.result = .ok ((Verdict.ofOutcome r.returns
      (r.process cell.state s.context.settings s.arguments none).outcome).output s.area.room 0) := by
  subst hroutine
  rw [s.result_finish hinit, verdict, Context.verdict, hcell, herror]
  rfl

/-- A row that does not fit has no value. -/
theorem process_refused {row : List Datum} (h : ¬ s.accepts row = true) :
    ∃ e, (s.process row).result = .error e := by
  obtain ⟨m, hm⟩ := s.onRow_of_not_accepts (Bool.eq_false_iff.2 h) fun t => t.value 0
  exact ⟨_, congrArg Reply.result hm⟩

section Prepared

variable {s} {r : Routine σ} (hroutine : s.routine = r) {row : List Datum} (hrow : s.accepts row = true)
  {cell : Cell σ} (hcell : s.context.cell = some cell)

include hroutine hrow hcell

/-- The value of a row that fits, where there is a state. -/
theorem process_of_cell :
    (s.process row).result = .ok ((Verdict.ofOutcome r.returns
      (r.process cell.state s.context.settings (s.laidOut row) none).outcome).output s.area.room 0) := by
  subst hroutine
  rw [s.result_process hrow, verdict, Context.verdict, hcell]
  rfl

/-- The state that is left by a row that fits. -/
theorem cell_process :
    ∃ stash, (s.process row).session.context.cell
      = some ⟨(r.process cell.state s.context.settings (s.laidOut row) none).state, stash⟩ := by
  subst hroutine
  rw [process, onRow_of_accepts s hrow]
  exact s.context.cell_process s.routine (s.laidOut row) ⟨some 0, some 0⟩ _ hcell

end Prepared

/-! ### Operations and the outputs that they give -/

/-- The outputs that an operation gives. -/
def outputs (s : Session σ) : Operation → List Output
  | .process row => (s.process row).result.toOption.toList
  | .finish => s.finish.result.toOption.toList
  | .group rows => (s.group rows).result.toOption.toList
  | .run items rows => (s.run items rows).result.toOption.getD []
  | _ => []

/-- On the way from one session to another a call for a value came to an output. -/
def Came (s u : Session σ) (o : Output) : Prop :=
  ∃ t error, Moves s t ∧ (t.value error).result = .ok o ∧ Moves (t.value error).session u

namespace Came

variable {s t u : Session σ} {o : Output}

theorem of_value {error : UInt8} (h : (s.value error).result = .ok o) :
    Came s (s.value error).session o := ⟨s, error, .refl s, h, .refl _⟩

theorem after (h : Moves s t) (h' : Came t u o) : Came s u o := by
  obtain ⟨v, error, hv, ho, hu⟩ := h'
  exact ⟨v, error, h.trans hv, ho, hu⟩

theorem before (h : Came s t o) (h' : Moves t u) : Came s u o := by
  obtain ⟨v, error, hv, ho, ht⟩ := h
  exact ⟨v, error, hv, ho, ht.trans h'⟩

end Came

variable {o : Output}

theorem came_process {row : List Datum} (h : (s.process row).result = .ok o) :
    Came s (s.process row).session o := by
  by_cases hrow : s.accepts row = true
  · rw [process, onRow_of_accepts s hrow] at h ⊢
    exact .after (.of_move (.row s row)) (.of_value h)
  · obtain ⟨m, hm⟩ := onRow_of_not_accepts s (Bool.eq_false_iff.2 hrow) fun t : Session σ => t.value 0
    rw [process, hm] at h
    cases h

theorem came_finish (h : s.finish.result = .ok o) : Came s s.finish.session o := by
  by_cases hinit : s.initialized = true
  · rw [finish, whenInitialized, if_pos hinit] at h ⊢
    exact .of_value h
  · rw [finish, whenInitialized, if_neg hinit] at h
    cases h

theorem came_group {rows : List (List Datum)} (h : (s.group rows).result = .ok o) :
    Came s (s.group rows).session o := by
  obtain ⟨_, -, hrows, hsession⟩ := Reply.andThen_ok h
  obtain ⟨_, -, hfinish, hsession'⟩ := Reply.andThen_ok hrows
  rw [group, hsession, hsession']
  exact .after s.moves_begin (.after (moves_addAll _ rows) (came_finish _ hfinish))

theorem came_processAll {rows : List (List Datum)} {os : List Output}
    (h : (s.processAll rows).result = .ok os) (ho : o ∈ os) :
    Came s (s.processAll rows).session o := by
  induction rows generalizing s os with
  | nil =>
    cases h
    cases ho
  | cons row rows ih =>
    obtain ⟨first, hfirst, h, hsession⟩ := Reply.andThen_ok h
    obtain ⟨rest, hrest, hdone, hsession'⟩ := Reply.andThen_ok h
    cases hdone
    rw [processAll, hsession, hsession']
    rcases List.mem_cons.1 ho with rfl | ho
    · exact (s.came_process hfirst).before (moves_processAll _ rows)
    · exact .after (s.moves_process row) (ih _ hrest ho)

theorem came_run {items : List Sample} {rows : List (List Datum)} {os : List Output}
    (h : (s.run items rows).result = .ok os) (ho : o ∈ os) :
    Came s (s.run items rows).session o := by
  obtain ⟨_, -, h, hsession⟩ := Reply.andThen_ok h
  obtain ⟨_, hrows, h, hsession'⟩ := Reply.andThen_ok h
  obtain ⟨_, -, h, hsession''⟩ := Reply.andThen_ok h
  rw [run, hsession, hsession', hsession'']
  cases hrows
  refine .after (s.moves_init items) ?_
  exact (came_processAll _ h ho).before (moves_deinit _)

/-- **Every output is that of a call for a value** on the way of its operation. -/
theorem came_of_mem_outputs {op : Operation} (h : o ∈ s.outputs op) : Came s (s.perform op) o := by
  cases op with
  | process row => exact s.came_process (Except.mem_toList_toOption.1 h)
  | finish => exact s.came_finish (Except.mem_toList_toOption.1 h)
  | group rows => exact s.came_group (Except.mem_toList_toOption.1 h)
  | run items rows =>
    cases hr : (s.run items rows).result with
    | error e => simp [outputs, hr, Except.toOption] at h
    | ok os =>
      have ho : o ∈ os := by simpa [outputs, hr, Except.toOption] using h
      exact s.came_run hr ho
  | _ => cases h

end Session
end Loadable
