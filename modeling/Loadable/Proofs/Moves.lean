/-
# What operations are made of

An operation of a session is a chain of moves (`moves_perform`): a row is laid out, the function's code
is called for a step of a group or for a value, a statement is begun or ended.  A setting that is
changed from outside is none of them.  So what holds of a session and is kept by every move holds
after every history, if changes from outside keep it too (`performAll_keeps`).
-/

import Loadable.Proofs.Watching
import Mathlib.Logic.Relation

namespace Loadable

namespace Session

variable {σ α β : Type}

/-- What a step of a group leaves; there is a symbol for it. -/
inductive GroupStep (s : Session σ) : StepReply σ → Prop where
  | clear (h : s.symbols.clear.isSome = true) :
    GroupStep s (s.context.clear s.routine GroupFlags.clear.toFlags)
  | add (h : s.symbols.add.isSome = true) :
    GroupStep s (s.context.add s.routine s.arguments s.flags.toFlags)
  | remove (h : s.symbols.remove.isSome = true) :
    GroupStep s (s.context.remove s.routine s.arguments s.flags.toFlags)

/-- A step of a group runs some code on the state. -/
theorem GroupStep.exists_stepWith {s : Session σ} {reply : StepReply σ} (h : GroupStep s reply) :
    ∃ part code flags, reply = Context.stepWith part code s.context flags := by
  cases h with
  | clear => exact ⟨_, _, _, rfl⟩
  | add => exact ⟨_, _, _, rfl⟩
  | remove => exact ⟨_, _, _, rfl⟩

/-- One thing that a session does in an operation. -/
inductive Move : Session σ → Session σ → Prop where
  /-- Lay a row out. -/
  | row (s : Session σ) (row : List Datum) : Move s (s.withRow row)
  | value (s : Session σ) (error : UInt8) : Move s (s.value error).session
  | step (s : Session σ) (kind : CallbackKind) (count : Option Nat) {reply : StepReply σ}
    (h : s.GroupStep reply) : Move s (s.stepped kind count reply).session
  /-- Begin a statement without a call. -/
  | prepare (s : Session σ) (items : List Sample) (h : s.symbols.init = none) :
    Move s ({ s with items }.prepared (Samples.ownTypes items))
  /-- Begin a statement with the function's own `init`. -/
  | enter (s : Session σ) (items : List Sample) (h : s.symbols.init.isSome = true) : Move s
      ({ s with items }.entered (s.context.init s.routine (items.map Sample.place))).session
  /-- End a statement without a call. -/
  | leave (s : Session σ) : Move s { s with initialized := false }
  /-- End a statement with the function's own `deinit`. -/
  | giveUp (s : Session σ) :
    Move s { s with initialized := false, context := (s.context.deinit s.routine).1 }

/-- However `init` ends, the session keeps the context that it left. -/
theorem context_entered (s : Session σ) (reply : InitReply σ) :
    (s.entered reply).session.routine = s.routine
      ∧ (s.entered reply).session.context = reply.context := by
  unfold entered
  cases reply.message <;> exact ⟨rfl, rfl⟩

/-- However `init` ends, symbols and flags stay. -/
theorem symbols_entered (s : Session σ) (reply : InitReply σ) :
    (s.entered reply).session.symbols = s.symbols
      ∧ (s.entered reply).session.flags = s.flags := by
  unfold entered
  cases reply.message <;> exact ⟨rfl, rfl⟩

/-- No move changes the function. -/
theorem Move.routine {s t : Session σ} (h : Move s t) : t.routine = s.routine := by
  cases h with
  | enter items => exact (context_entered { s with items } _).1
  | _ => rfl

/-- No move changes the symbols. -/
theorem Move.symbols {s t : Session σ} (h : Move s t) : t.symbols = s.symbols := by
  cases h with
  | enter items => exact (symbols_entered { s with items } _).1
  | _ => rfl

/-- Some moves, one after the other. -/
def Moves : Session σ → Session σ → Prop := Relation.ReflTransGen Move

namespace Moves

variable {s t u : Session σ}

theorem refl (s : Session σ) : Moves s s := Relation.ReflTransGen.refl

theorem of_move (h : Move s t) : Moves s t := .single h

theorem trans (h : Moves s t) (h' : Moves t u) : Moves s u := Relation.ReflTransGen.trans h h'

/-- What every move keeps is kept by some. -/
theorem keeps {P : Session σ → Prop} (hmove : ∀ s t, Move s t → P s → P t) (h : Moves s t)
    (hs : P s) : P t := by
  induction h with
  | refl => exact hs
  | tail _ hlast ih => exact hmove _ _ hlast ih

theorem routine (h : Moves s t) : t.routine = s.routine :=
  h.keeps (P := fun t => t.routine = s.routine) (fun _ _ hmove h => hmove.routine.trans h) rfl

theorem andThen {r : Reply σ α} {next : α → Session σ → Reply σ β} (h : Moves s r.session)
    (hnext : ∀ a t, Moves t (next a t).session) : Moves s (r.andThen next).session :=
  Reply.session_andThen h fun a t ht => ht.trans (hnext a t)

theorem whenInitialized {next : Reply σ α} (h : Moves s next.session) :
    Moves s (s.whenInitialized next).session := by
  unfold Session.whenInitialized
  split
  · exact h
  · exact refl s

end Moves

/-! ### Each operation -/

variable (s : Session σ)

theorem moves_onRow {row : List Datum} {next : Session σ → Reply σ α}
    (hnext : Moves (s.withRow row) (next (s.withRow row)).session) :
    Moves s (s.onRow row next).session := by
  refine Moves.whenInitialized ?_
  split
  · exact .refl s
  · exact (Moves.of_move (.row s row)).trans hnext

theorem moves_process (row : List Datum) : Moves s (s.process row).session :=
  s.moves_onRow (.of_move (.value _ 0))

theorem moves_begin : Moves s s.begin.session := by
  refine Moves.whenInitialized ?_
  split
  case isTrue => exact .refl s
  case isFalse hclear =>
    have hsome : s.symbols.clear.isSome = true := by
      simpa [Option.isSome_iff_ne_none] using hclear
    exact Moves.andThen (.of_move (.step s _ _ (.clear hsome))) fun _ t => .refl t

theorem moves_rowStep {symbol : Option Unit} {missing : Misuse} {call : Session σ → StepReply σ}
    (row : List Datum)
    (hcall : symbol.isSome = true → GroupStep (s.withRow row) (call (s.withRow row))) :
    Moves s (s.rowStep symbol missing call row).session := by
  unfold rowStep
  split
  case isTrue => exact .refl s
  case isFalse hsymbol =>
    have hsome : symbol.isSome = true := by simpa [Option.isSome_iff_ne_none] using hsymbol
    exact s.moves_onRow (.of_move (.step _ _ _ (hcall hsome)))

theorem moves_add (row : List Datum) : Moves s (s.add row).session :=
  s.moves_rowStep row fun h => .add h

theorem moves_remove (row : List Datum) : Moves s (s.remove row).session :=
  s.moves_rowStep row fun h => .remove h

theorem moves_finish : Moves s s.finish.session := .whenInitialized (.of_move (.value s _))

theorem moves_addAll (rows : List (List Datum)) : Moves s (s.addAll rows).session := by
  induction rows generalizing s with
  | nil => exact .refl s
  | cons row rows ih => exact .andThen (s.moves_add row) fun _ t => ih t

theorem moves_group (rows : List (List Datum)) : Moves s (s.group rows).session :=
  .andThen s.moves_begin fun _ t => .andThen (t.moves_addAll rows) fun _ u => u.moves_finish

theorem moves_processAll (rows : List (List Datum)) : Moves s (s.processAll rows).session := by
  induction rows generalizing s with
  | nil => exact .refl s
  | cons row rows ih =>
    exact .andThen (s.moves_process row) fun _ t => .andThen (ih t) fun _ u => .refl u

theorem moves_surprises (index : Nat) (rows : List (List Datum × Output)) :
    Moves s (s.surprises index rows).session := by
  induction rows generalizing s index with
  | nil => exact .refl s
  | cons row rows ih =>
    refine .andThen (s.moves_process row.1) fun _ t => ?_
    exact .andThen (ih t (index + 1)) fun _ u => .refl u

theorem moves_expect (rows : List (List Datum)) (expected : List Output) :
    Moves s (s.expect rows expected).session := by
  unfold expect
  split
  · exact .refl s
  · refine .andThen (s.moves_surprises 0 _) fun lines t => ?_
    split <;> exact .refl t

theorem moves_init (items : List Sample) : Moves s (s.init items).session := by
  unfold init
  split
  · exact .refl s
  · dsimp only
    split
    case isTrue hinit => exact .of_move (.prepare s items (Option.isNone_iff_eq_none.1 hinit))
    case isFalse hinit =>
      have hsome : s.symbols.init.isSome = true := by
        simpa [Option.isSome_iff_ne_none] using hinit
      exact .of_move (.enter s items hsome)

theorem moves_deinit : Moves s s.deinit.session := by
  refine .whenInitialized ?_
  dsimp only
  split
  · exact .of_move (.leave s)
  · exact .of_move (.giveUp s)

theorem moves_run (items : List Sample) (rows : List (List Datum)) :
    Moves s (s.run items rows).session := by
  refine .andThen (s.moves_init items) fun _ t => ?_
  refine .andThen (t.moves_processAll rows) fun _ u => ?_
  exact .andThen u.moves_deinit fun _ v => .refl v

/-- **An operation is a chain of moves,** unless it changes a setting from outside. -/
theorem moves_perform {op : Operation} (h : ∀ change, op ≠ .configure change) :
    Moves s (s.perform op) := by
  cases op with
  | init items => exact s.moves_init items
  | process row => exact s.moves_process row
  | begin => exact s.moves_begin
  | add row => exact s.moves_add row
  | remove row => exact s.moves_remove row
  | finish => exact s.moves_finish
  | group rows => exact s.moves_group rows
  | deinit => exact s.moves_deinit
  | run items rows => exact s.moves_run items rows
  | expect rows expected => exact s.moves_expect rows expected
  | configure change => exact absurd rfl (h change)

/-! ### Whole histories -/

section Start

variable {routine : Routine σ} {traced : Option Trace.Mode} {lookup : String → Option Unit}
  {name : String} {aggregate : Bool} {returns : Tag} {s : Session σ}

theorem start_eq (h : start routine traced lookup name aggregate returns = .ok s) :
    ∃ symbols, (Symbols.resolve lookup name aggregate returns).2 = .ok symbols
      ∧ s = ⟨routine, traced, symbols, .fresh, [], [], List.replicate resultSize 0, false,
        .clear⟩ := by
  unfold start at h
  cases hr : (Symbols.resolve lookup name aggregate returns).2 with
  | error e => simp [hr] at h
  | ok symbols =>
    rw [hr] at h
    cases h
    exact ⟨symbols, rfl, rfl⟩

/-- A new session has the function, an unused context and a buffer of full size. -/
theorem start_fresh (h : start routine traced lookup name aggregate returns = .ok s) :
    s.routine = routine ∧ s.context = .fresh ∧ s.buffer.length = resultSize := by
  obtain ⟨symbols, -, rfl⟩ := start_eq h
  exact ⟨rfl, rfl, List.length_replicate⟩

end Start

/-- **What every move keeps, every history keeps,** if the changes from outside in it do. -/
theorem performAll_keeps {P : Session σ → Prop} (hmove : ∀ s t, Move s t → P s → P t)
    {ops : List Operation}
    (hchange : ∀ change, .configure change ∈ ops → ∀ s, P s → P (s.configure change).session)
    (hs : P s) : P (s.performAll ops) := by
  induction ops generalizing s with
  | nil => exact hs
  | cons op ops ih =>
    refine ih (s.perform op) (fun change h => hchange change (List.mem_cons_of_mem _ h)) ?_
    by_cases h : ∃ change, op = .configure change
    · obtain ⟨change, rfl⟩ := h
      exact hchange change List.mem_cons_self s hs
    · exact (s.moves_perform fun change hop => h ⟨change, hop⟩).keeps hmove hs

/-- No history changes the symbols. -/
theorem symbols_performAll (ops : List Operation) : (s.performAll ops).symbols = s.symbols :=
  s.performAll_keeps (P := fun t => t.symbols = s.symbols)
    (fun _ _ hmove h => hmove.symbols.trans h) (fun _ _ _ h => h) rfl

/-- No history changes the function. -/
theorem routine_performAll (ops : List Operation) : (s.performAll ops).routine = s.routine :=
  s.performAll_keeps (P := fun t => t.routine = s.routine)
    (fun _ _ hmove h => hmove.routine.trans h) (fun _ _ _ h => h) rfl

end Session
end Loadable
