/-
# Misuse has no effect

What is seen of an operation is its reply (`Session.reply`) and what the session shows then
(`Session.transcript`, along a history).  An operation out of order is refused: `Session.misuse?` names
the reason, the first of its checks that fails.  The checks come before anything is written or called, so
a refusal leaves the session as it was, and whatever follows goes as without it.

That no callback was invoked cannot be read off a session that was left alone.  So the session is
overheard (`Session.overheard`): its calls are traced and its function is watched, and every callback
leaves at least the entry of its start (`seen_ne_nil`).  A refusal leaves none, and an operation
that is not refused does, if the library exports its callback (`Session.misuse_has_no_effect`).
-/

import Loadable.Functions.Groups
import Loadable.Proofs.Watching

namespace Loadable

/-- What an operation gives if it succeeds. -/
inductive Yield where
  | nothing
  | output (o : Output)
  | outputs (os : List Output)
  /-- The error flag of a group. -/
  | flag (error : UInt8)
  deriving DecidableEq, Repr

namespace Reply

variable {σ α β : Type}

/-- The same reply with a result made of the other. -/
def map (f : α → β) (r : Reply σ α) : Reply σ β := ⟨r.session, r.result.map f, r.events⟩

/-- The misuse that an operation was refused for. -/
def misuse? (r : Reply σ α) : Option Misuse :=
  match r.result with
  | .error ⟨_, .misuse m⟩ => some m
  | _ => none

end Reply

/-- Whether an operation makes no more than one call. -/
def Operation.isCall : Operation → Bool
  | init _ => true
  | process _ => true
  | begin => true
  | add _ => true
  | remove _ => true
  | finish => true
  | deinit => true
  | _ => false

/-- What is seen of an operation: its result, and what the session shows after it. -/
structure Showing where
  answer : Except Report Yield
  types : List SqlType
  hasState : Bool
  settings : Settings

namespace Session

variable {σ α : Type}

/-- An operation, with its result as a yield. -/
def reply (s : Session σ) : Operation → Reply σ Yield
  | .init items => (s.init items).map fun _ => .nothing
  | .process row => (s.process row).map .output
  | .begin => s.begin.map fun _ => .nothing
  | .add row => (s.add row).map .flag
  | .remove row => (s.remove row).map .flag
  | .finish => s.finish.map .output
  | .group rows => (s.group rows).map .output
  | .deinit => s.deinit.map fun _ => .nothing
  | .run items rows => (s.run items rows).map .outputs
  | .expect rows expected => (s.expect rows expected).map fun _ => .nothing
  | .configure change => (s.configure change).map fun _ => .nothing

theorem session_reply (s : Session σ) (op : Operation) : (s.reply op).session = s.perform op := by
  cases op <;> rfl

/-- What is seen of an operation. -/
def showing (s : Session σ) (op : Operation) : Showing :=
  let t := s.perform op
  ⟨(s.reply op).result, t.types, t.hasState, t.context.settings⟩

/-- What is seen of a history. -/
def transcript (s : Session σ) : List Operation → List Showing
  | [] => []
  | op :: ops => s.showing op :: (s.perform op).transcript ops

/-! ### Checks -/

variable (s : Session σ)

/-- Why a row is refused, if it is. -/
def rowMisuse? (row : List Datum) : Option Misuse :=
  if !s.initialized then some (.notInitialized s.name)
  else if row.length ≠ s.types.length then some (.argCount s.name s.types.length row.length)
  else none

/-- Why an operation is refused, if it is: the first of its checks that fails. -/
def misuse? : Operation → Option Misuse
  | .init _ => if s.initialized then some (.alreadyInitialized s.name) else none
  | .process row => s.rowMisuse? row
  | .begin =>
    if !s.initialized then some (.notInitialized s.name)
    else if s.symbols.clear.isNone then some (.notAggregate s.name)
    else none
  | .add row => if s.symbols.add.isNone then some (.notAggregate s.name) else s.rowMisuse? row
  | .remove row => if s.symbols.remove.isNone then some (.noRemove s.name) else s.rowMisuse? row
  | .finish => if !s.initialized then some (.notInitialized s.name) else none
  | .deinit => if !s.initialized then some (.notInitialized s.name) else none
  | _ => none

/-- Whether the library exports the callback of an operation; those of groups are checked for, and the
one for a value is always there. -/
def exports : Operation → Bool
  | .init _ => s.symbols.init.isSome
  | .deinit => s.symbols.deinit.isSome
  | _ => true

/-! ### Refusals -/

theorem whenInitialized_refused (h : s.initialized = false) (next : Reply σ α) :
    s.whenInitialized next = s.refuse (.notInitialized s.name) := by
  rw [whenInitialized, if_neg (Bool.eq_false_iff.1 h)]

theorem whenInitialized_passed (h : s.initialized = true) (next : Reply σ α) :
    s.whenInitialized next = next := by
  rw [whenInitialized, if_pos h]

theorem rowMisuse?_eq_none_iff {row : List Datum} :
    s.rowMisuse? row = none ↔ s.accepts row = true := by
  rw [rowMisuse?, accepts]
  cases s.initialized <;> simp

/-- A row is laid out unless there is a reason to refuse it. -/
theorem onRow_eq (row : List Datum) (next : Session σ → Reply σ α) :
    s.onRow row next
      = match s.rowMisuse? row with
        | some m => s.refuse m
        | none => next (s.withRow row) := by
  unfold onRow rowMisuse?
  by_cases hinit : s.initialized = true
  · rw [s.whenInitialized_passed hinit]
    by_cases hlen : row.length ≠ s.types.length
    · simp [hinit, hlen]
    · simp [hinit, hlen]
  · have hfalse := Bool.eq_false_iff.2 hinit
    rw [s.whenInitialized_refused hfalse]
    simp [hfalse]

theorem rowStep_eq (symbol : Option Unit) (missing : Misuse) (call : Session σ → StepReply σ)
    (row : List Datum) :
    s.rowStep symbol missing call row
      = match if symbol.isNone then some missing else s.rowMisuse? row with
        | some m => s.refuse m
        | none => (s.withRow row).stepped .add (some (s.withRow row).items.length)
            (call (s.withRow row)) := by
  unfold rowStep
  by_cases hsymbol : symbol.isNone = true
  · simp [hsymbol]
  · simp only [hsymbol, Bool.false_eq_true, if_false]
    exact s.onRow_eq row _

/-- A refusal is the same whatever the operation would give. -/
theorem map_refuse {β : Type} (m : Misuse) (f : α → β) :
    (s.refuse m : Reply σ α).map f = s.refuse m := rfl

/-- **An operation with a reason to refuse it is refused for that reason.** -/
theorem reply_of_misuse {op : Operation} {m : Misuse} (h : s.misuse? op = some m) :
    s.reply op = s.refuse m := by
  cases op with
  | init items =>
    obtain ⟨hinit, hm⟩ := Option.ite_none_right_eq_some.1 h
    obtain rfl := Option.some.inj hm
    rw [reply, init, if_pos hinit, map_refuse]
  | process row =>
    rw [misuse?] at h
    rw [reply, process, onRow_eq, h, map_refuse]
  | begin =>
    rw [misuse?] at h
    split at h
    case isTrue hinit =>
      obtain rfl := Option.some.inj h
      rw [reply, begin, s.whenInitialized_refused (by simpa using hinit), map_refuse]
    case isFalse hinit =>
      obtain ⟨hclear, hm⟩ := Option.ite_none_right_eq_some.1 h
      obtain rfl := Option.some.inj hm
      rw [reply, begin, s.whenInitialized_passed (by simpa using hinit), if_pos hclear, map_refuse]
  | add row =>
    rw [misuse?] at h
    rw [reply, add, rowStep_eq, h, map_refuse]
  | remove row =>
    rw [misuse?] at h
    rw [reply, remove, rowStep_eq, h, map_refuse]
  | finish =>
    obtain ⟨hinit, hm⟩ := Option.ite_none_right_eq_some.1 h
    obtain rfl := Option.some.inj hm
    rw [reply, finish, s.whenInitialized_refused (by simpa using hinit), map_refuse]
  | deinit =>
    obtain ⟨hinit, hm⟩ := Option.ite_none_right_eq_some.1 h
    obtain rfl := Option.some.inj hm
    rw [reply, deinit, s.whenInitialized_refused (by simpa using hinit), map_refuse]
  | _ => cases h

/-! ### Calls -/

/-- A traced call leaves at least the entry of its start. -/
theorem seen_ne_nil (mode : Trace.Mode) (kind : CallbackKind) (count : Option Nat)
    (before after : Context σ) (events : List Event) :
    Trace.seen (some mode) kind count before after events ≠ [] := by
  rw [Trace.seen, Trace.around, Trace.enter]
  exact List.cons_ne_nil _ _

/-- What is heard of an operation that was not refused: events with calls traced exactly if it makes
a call. -/
structure Passed (traced : Option Trace.Mode) (r : Reply σ α) (calls : Bool) : Prop where
  misuse : r.misuse? = none
  heard : ∀ mode, traced = some mode → (r.events = [] ↔ calls = false)

/-- An operation that lets a call be seen, whatever its events, is heard. -/
theorem Passed.of_seen {r : Reply σ α} {kind : CallbackKind} {count : Option Nat}
    {after : Context σ} {events : List Event} (hmisuse : r.misuse? = none)
    (hevents : r.events = s.seen kind count after events) : Passed s.traced r true where
  misuse := hmisuse
  heard mode hmode := by
    rw [hevents, seen, hmode]
    exact iff_of_false (seen_ne_nil mode kind count s.context after events) Bool.noConfusion

/-- An operation without a call is not heard. -/
theorem Passed.done {traced : Option Trace.Mode} (a : α) : Passed traced (s.done a) false :=
  ⟨rfl, fun _ _ => iff_of_true rfl rfl⟩

theorem Passed.map {β : Type} {traced : Option Trace.Mode} {r : Reply σ α} {calls : Bool}
    (h : Passed traced r calls) (f : α → β) : Passed traced (r.map f) calls where
  misuse := by
    obtain ⟨s', result, events⟩ := r
    cases result with
    | ok a => rfl
    | error e =>
      obtain ⟨contexts, fault⟩ := e
      cases fault with
      | misuse m => exact h.misuse
      | symbol e => rfl
      | text s => rfl
  heard := h.heard

theorem passed_value (error : UInt8) : Passed s.traced (s.value error) true := .of_seen s rfl rfl

theorem passed_stepped (kind : CallbackKind) (count : Option Nat) (reply : StepReply σ) :
    Passed s.traced (s.stepped kind count reply) true := .of_seen s rfl rfl

theorem passed_entered (reply : InitReply σ) : Passed s.traced (s.entered reply) true := by
  unfold entered
  cases reply.message with
  | none => exact .of_seen s rfl rfl
  | some m => exact .of_seen s rfl rfl

/-- **An operation without a reason to refuse it is not refused,** and makes its call if the library
exports it. -/
theorem passed_reply {op : Operation} (hop : op.isCall = true) (h : s.misuse? op = none) :
    Passed s.traced (s.reply op) (s.exports op) := by
  cases op with
  | init items =>
    have hinit : ¬ s.initialized = true := by simpa [misuse?] using h
    refine Passed.map ?_ _
    rw [init, if_neg hinit, exports]
    dsimp only
    cases hsymbol : s.symbols.init with
    | none => exact Passed.done _ ()
    | some a => exact { s with items }.passed_entered _
  | process row =>
    rw [misuse?] at h
    refine Passed.map ?_ _
    rw [process, onRow_eq, h]
    exact (s.withRow row).passed_value 0
  | begin =>
    rw [misuse?] at h
    split at h
    case isTrue => cases h
    case isFalse hinit =>
      have hclear : ¬ s.symbols.clear.isNone = true := by simpa using h
      refine Passed.map ?_ _
      rw [begin, s.whenInitialized_passed (by simpa using hinit), if_neg hclear]
      exact .of_seen s rfl (List.append_nil _)
  | add row =>
    rw [misuse?] at h
    refine Passed.map ?_ _
    rw [add, rowStep_eq, h]
    exact (s.withRow row).passed_stepped _ _ _
  | remove row =>
    rw [misuse?] at h
    refine Passed.map ?_ _
    rw [remove, rowStep_eq, h]
    exact (s.withRow row).passed_stepped _ _ _
  | finish =>
    have hinit : s.initialized = true := by simpa [misuse?] using h
    refine Passed.map ?_ _
    rw [finish, s.whenInitialized_passed hinit]
    exact s.passed_value _
  | deinit =>
    have hinit : s.initialized = true := by simpa [misuse?] using h
    refine Passed.map ?_ _
    rw [deinit, s.whenInitialized_passed hinit, exports]
    dsimp only
    cases hsymbol : s.symbols.deinit with
    | none => exact Passed.done _ ()
    | some a => exact .of_seen s rfl rfl
  | _ => cases hop

/-- The session with its calls traced and its function watched. -/
def overheard (s : Session σ) (mode : Trace.Mode) : Session σ :=
  { s.observed with traced := some mode }

/-- **Misuse has no effect,** in any session.  An operation of at most one call is refused exactly if one of its
checks fails, and for the first of them.  A refusal leaves the session as it was, with its context,
arguments, types and flags, nothing is logged, and what follows is seen as without it.  An
operation makes a call exactly if it is not refused and the library exports the callback: only then is
anything heard of a session with its calls traced and its function watched. -/
theorem misuse_has_no_effect {op : Operation} (hop : op.isCall = true) :
    (s.reply op).misuse? = s.misuse? op
      ∧ (∀ m, (s.reply op).misuse? = some m →
        s.reply op = s.refuse m ∧ s.perform op = s
          ∧ ∀ ops, (s.perform op).transcript ops = s.transcript ops)
      ∧ ∀ mode, ((s.overheard mode).reply op).events = []
        ↔ (s.reply op).misuse?.isSome = true ∨ s.exports op = false := by
  have hsame : ∀ mode, (s.overheard mode).misuse? op = s.misuse? op ∧
      (s.overheard mode).exports op = s.exports op := by
    intro mode
    cases op <;> exact ⟨rfl, rfl⟩
  cases hmisuse : s.misuse? op with
  | some m =>
    have hrefused := s.reply_of_misuse hmisuse
    have hperform : s.perform op = s := by rw [← session_reply, hrefused]; rfl
    have hreason : (s.reply op).misuse? = some m := by rw [hrefused]; rfl
    refine ⟨hreason, fun m' hm' => ?_, fun mode => ?_⟩
    · obtain rfl : m = m' := Option.some.inj (hreason.symm.trans hm')
      exact ⟨hrefused, hperform, fun ops => by rw [hperform]⟩
    · rw [(s.overheard mode).reply_of_misuse ((hsame mode).1.trans hmisuse), hreason]
      exact iff_of_true rfl (.inl rfl)
  | none =>
    have hnone := (s.passed_reply hop hmisuse).misuse
    refine ⟨hnone, fun m' hm' => ?_, fun mode => ?_⟩
    · rw [hnone] at hm'
      cases hm'
    · have hheard := ((s.overheard mode).passed_reply hop ((hsame mode).1.trans hmisuse)).heard
        mode rfl
      rw [hheard, hnone, (hsame mode).2]
      simp

/-- A row of two values for a sum of one, within a group that has failed, and a value of it. -/
theorem misuse_has_no_effect_groupSum :
    let symbols : Symbols Unit :=
      ⟨"group_sum", true, some (), some (), some ⟨.longlong, ()⟩, some (), some (), none⟩
    let s : Session Int64 := ⟨Functions.groupSum, none, symbols, ⟨.empty, some ⟨4, none⟩⟩,
      [⟨.int (some 1), "n", false⟩], [.int], [], true, ⟨0, 3⟩⟩
    let row : List Datum := [.int (some 5), .int none]
    let mode : Trace.Mode := ⟨"GroupSum", true⟩
    s.reply (.add row) = s.refuse (.argCount "group_sum" 1 2) ∧ s.perform (.add row) = s
      ∧ ((s.overheard mode).reply (.add row)).events = []
      ∧ ((s.overheard mode).reply .finish).events ≠ [] := by
  intro symbols s row mode
  have hadd : (Operation.add row).isCall = true := rfl
  have hfinish : Operation.finish.isCall = true := rfl
  obtain ⟨-, hrefused, hheard⟩ := s.misuse_has_no_effect hadd
  obtain ⟨-, -, hvalue⟩ := s.misuse_has_no_effect hfinish
  obtain ⟨hreply, hsame, -⟩ := hrefused (.argCount "group_sum" 1 2) rfl
  refine ⟨hreply, hsame, (hheard mode).2 (.inl rfl), fun hnil => ?_⟩
  rcases (hvalue mode).1 hnil with hmisuse | hexports
  · cases hmisuse
  · cases hexports

end Session
end Loadable
