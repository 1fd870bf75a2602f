/-
# The error of a group

A step of a group that fails leaves a code in the group's error flag, where it stays until a later
step fails: `Session.failure?` reads off a function's code how one operation fails, `failures`
collects these codes along a history, and the flag is the last of them (`error_performAll`).  Every
step is told of it, and so is the call for the value, which is then an error whatever the code
returns.  A value asked for a row neither reads nor writes the flag, and a new group does not read it.
-/

import Loadable.Functions.Groups
import Loadable.Proofs.Watching
import Mathlib.Data.List.Induction

namespace Loadable

/-- The code that the end of a step leaves: its own if it fails, one if it panics. -/
def Outcome.failure? : Outcome Code Unit → Option UInt8
  | ok _ => none
  | err code => some code
  | panic _ => some 1

/-- Whether code ends well. -/
def Outcome.isOk {ε α : Type} : Outcome ε α → Bool
  | ok _ => true
  | _ => false

theorem Outcome.failure?_ne_zero (outcome : Outcome Code Unit) : outcome.failure? ≠ some 0 := by
  cases outcome with
  | ok a => nofun
  | err code => exact fun h => code.2 (Option.some.inj h)
  | panic p => nofun

/-- An output that is read is no error. -/
theorem Output.ofReturned_ne_error (returned : Returned) (area : ResultArea) :
    ofReturned returned area ≠ error := by
  cases returned with
  | int v => nofun
  | real v => nofun
  | string p =>
    cases p with
    | null => nofun
    | _ =>
      unfold ofReturned
      dsimp only
      split <;> nofun

/-- A call comes to an error exactly if it leaves the error flag set. -/
theorem Output.ofReply_eq_error_iff {σ : Type} (reply : ProcessReply σ) :
    ofReply reply = error ↔ reply.flags.error.getD 0 ≠ 0 := by
  unfold ofReply
  split
  · exact iff_of_true rfl ‹_›
  · refine iff_of_false ?_ ‹_›
    split
    · nofun
    · exact ofReturned_ne_error _ _

namespace Context

variable {σ : Type} (part : Stage) (code : σ → Option Code → Run σ Code Unit) (c : Context σ)
  (flags : Flags)

/-- How a step of a group fails: as its code does, and with one without a state. -/
def failure? : Option UInt8 :=
  match c.cell with
  | none => some 1
  | some cell => (code cell.state flags.code?).outcome.failure?

theorem failure?_ne_zero : failure? code c flags ≠ some 0 := by
  unfold failure?
  cases c.cell with
  | none => nofun
  | some cell => exact Outcome.failure?_ne_zero _

/-- A step writes the error flag only if it fails. -/
theorem error_stepWith :
    (stepWith part code c flags).flags.error
      = flags.error.map fun b => (failure? code c flags).getD b := by
  unfold stepWith failure?
  cases c.cell with
  | none => rfl
  | some cell =>
    dsimp only
    cases (code cell.state flags.code?).outcome with
    | ok a => cases flags.error <;> rfl
    | err e => rfl
    | panic p => rfl

/-- A step that does not fail has run its code on a state, and that ended well. -/
theorem exists_of_failure?_eq_none
    (h : c.failure? code flags = none) :
    ∃ cell, c.cell = some cell ∧ (code cell.state flags.code?).outcome = .ok () := by
  unfold failure? at h
  cases hcell : c.cell with
  | none => simp [hcell] at h
  | some cell =>
    refine ⟨cell, rfl, ?_⟩
    simp only [hcell] at h
    cases houtcome : (code cell.state flags.code?).outcome with
    | ok u => rfl
    | err e => rw [houtcome] at h; cases h
    | panic p => rw [houtcome] at h; cases h

/-- A call for a value writes the error flag only if its code does not end well. -/
theorem error_process (r : Routine σ) (args : List Argument) (area : ResultArea) {cell : Cell σ}
    (h : c.cell = some cell) :
    (c.process r args flags area).flags.error
      = flags.error.map fun b =>
        if (r.process cell.state c.settings args flags.code?).outcome.isOk then b else 1 := by
  rw [process_prepared r c args flags area h]
  dsimp only
  cases (r.process cell.state c.settings args flags.code?).outcome with
  | ok v => cases hv : r.returns.toOption v <;> simp [hv, Outcome.isOk]
  | err e => rfl
  | panic p => rfl

end Context

/-- Whether an operation may stand within a group. -/
def Operation.inGroup : Operation → Bool
  | process _ => true
  | add _ => true
  | remove _ => true
  | _ => false

namespace Session

variable {σ : Type} (s : Session σ)

/-- How the step of a group that an operation makes fails, if it makes one and that fails. -/
def failure? : Operation → Option UInt8
  | .begin =>
    s.context.failure? (fun x e => s.routine.clear x s.context.settings e) GroupFlags.clear.toFlags
  | .add row =>
    if s.accepts row && s.symbols.add.isSome then
      s.context.failure? (fun x e => s.routine.add x s.context.settings (s.laidOut row) e)
        s.flags.toFlags
    else none
  | .remove row =>
    if s.accepts row && s.symbols.remove.isSome then
      s.context.failure? (fun x e => s.routine.remove x s.context.settings (s.laidOut row) e)
        s.flags.toFlags
    else none
  | _ => none

/-- How the steps of a history fail, those that do. -/
def failures (s : Session σ) : List Operation → List UInt8
  | [] => []
  | op :: ops => (s.failure? op).toList ++ (s.perform op).failures ops

/-! ### One operation -/

/-- A step leaves its failure in the flag, or the flag as it was, and gives it back. -/
theorem stepped_stepWith (kind : CallbackKind) (count : Option Nat) (part : Stage)
    (code : σ → Option Code → Run σ Code Unit) (flags : GroupFlags) :
    let error := (Context.failure? code s.context flags.toFlags).getD flags.error
    let reply := s.stepped kind count (Context.stepWith part code s.context flags.toFlags)
    reply.result = .ok error ∧ reply.session.flags.error = error := by
  have herror := Context.error_stepWith part code s.context flags.toFlags
  have hflag : (GroupFlags.ofFlags
      (Context.stepWith part code s.context flags.toFlags).flags).error
      = (Context.failure? code s.context flags.toFlags).getD flags.error := by
    rw [GroupFlags.ofFlags, herror]
    rfl
  exact ⟨congrArg Except.ok hflag, hflag⟩

theorem error_begin (hinit : s.initialized = true) (hclear : s.symbols.clear.isSome = true) :
    s.begin.result = .ok () ∧ s.begin.session.flags.error = (s.failure? .begin).getD 0 := by
  have hstep := s.stepped_stepWith .clear none .clear
    (fun x e => s.routine.clear x s.context.settings e) .clear
  rw [s.begin_called hinit hclear]
  exact ⟨rfl, hstep.2⟩

variable {row : List Datum}

theorem error_add (h : s.accepts row = true) (hadd : s.symbols.add.isSome = true) :
    let error := (s.failure? (.add row)).getD s.flags.error
    (s.add row).result = .ok error ∧ (s.add row).session.flags.error = error := by
  have hstep := (s.withRow row).stepped_stepWith .add (some (s.withRow row).items.length) .add
    (fun x e => s.routine.add x s.context.settings (s.laidOut row) e) s.flags
  rw [add, rowStep_accepted _ _ h hadd, failure?, h, hadd]
  exact hstep

theorem error_remove (h : s.accepts row = true) (hremove : s.symbols.remove.isSome = true) :
    let error := (s.failure? (.remove row)).getD s.flags.error
    (s.remove row).result = .ok error ∧ (s.remove row).session.flags.error = error := by
  have hstep := (s.withRow row).stepped_stepWith .add (some (s.withRow row).items.length) .remove
    (fun x e => s.routine.remove x s.context.settings (s.laidOut row) e) s.flags
  rw [remove, rowStep_accepted _ _ h hremove, failure?, h, hremove]
  exact hstep

/-- A value asked for a row leaves the flags of the group alone. -/
theorem flags_process : (s.process row).session.flags = s.flags := by
  by_cases h : s.accepts row = true
  · rw [process, onRow_of_accepts s h]
    rfl
  · obtain ⟨m, hm⟩ := onRow_of_not_accepts s (Bool.eq_false_iff.2 h) fun t : Session σ => t.value 0
    rw [process, hm]
    rfl

/-- A value asked for a row does not depend on the flags of the group. -/
theorem process_flags (flags : GroupFlags) :
    ({ s with flags }.process row).result = (s.process row).result := by
  rw [process, process, onRow, onRow, whenInitialized, whenInitialized]
  dsimp only
  split
  · split <;> rfl
  · rfl

/-- A new group does not depend on the flags of the one before. -/
theorem begin_flags (hinit : s.initialized = true) (hclear : s.symbols.clear.isSome = true)
    (flags : GroupFlags) : { s with flags }.begin = s.begin := by
  rw [begin_called s hinit hclear, begin_called { s with flags } hinit hclear]
  rfl

/-- **One step of a group:** the flag is the failure of the step, or stays as it was. -/
theorem error_perform {op : Operation} (h : op.inGroup = true) :
    (s.perform op).flags.error = (s.failure? op).getD s.flags.error := by
  cases op with
  | process row => exact congrArg GroupFlags.error s.flags_process
  | add row =>
    by_cases hrow : (s.accepts row && s.symbols.add.isSome) = true
    · obtain ⟨hrow, hadd⟩ := Bool.and_eq_true_iff.1 hrow
      exact (s.error_add hrow hadd).2
    · obtain ⟨m, hm⟩ : ∃ m, s.add row = s.refuse m := rowStep_refused _ _ hrow
      rw [failure?, if_neg hrow, perform, hm]
      rfl
  | remove row =>
    by_cases hrow : (s.accepts row && s.symbols.remove.isSome) = true
    · obtain ⟨hrow, hremove⟩ := Bool.and_eq_true_iff.1 hrow
      exact (s.error_remove hrow hremove).2
    · obtain ⟨m, hm⟩ : ∃ m, s.remove row = s.refuse m := rowStep_refused _ _ hrow
      rw [failure?, if_neg hrow, perform, hm]
      rfl
  | _ => cases h

theorem failure?_ne_zero (op : Operation) : s.failure? op ≠ some 0 := by
  unfold failure?
  split
  · exact Context.failure?_ne_zero _ _ _
  · split
    · exact Context.failure?_ne_zero _ _ _
    · nofun
  · split
    · exact Context.failure?_ne_zero _ _ _
    · nofun
  · nofun

/-- How the value of a group comes out: as an error if it is asked for with one, and else if there is
no state or the code does not end well. -/
theorem value_eq_error_iff (error : UInt8) :
    (s.value error).result = .ok .error
      ↔ error ≠ 0 ∨ ∀ cell, s.context.cell = some cell →
        (s.routine.process cell.state s.context.settings s.arguments
          (Code.ofByte? error)).outcome.isOk = false := by
  have hreply : (s.value error).result = .ok .error
      ↔ Output.ofReply (s.context.process s.routine s.arguments ⟨some 0, some error⟩
        s.area) = .error := ⟨Except.ok.inj, congrArg Except.ok⟩
  have hone : (1 : UInt8) ≠ 0 := by decide
  rw [hreply, Output.ofReply_eq_error_iff]
  cases hc : s.context.cell with
  | none =>
    rw [Context.process_unprepared _ _ _ _ _ hc]
    exact iff_of_true hone (.inr nofun)
  | some cell =>
    rw [Context.error_process _ _ _ _ _ hc, Option.map_some, Option.getD_some]
    change (if (s.routine.process cell.state s.context.settings s.arguments
      (Code.ofByte? error)).outcome.isOk = true then error else 1) ≠ 0 ↔ _
    constructor
    · intro hne
      split at hne
      · exact .inl hne
      · refine .inr fun cell' hcell => ?_
        cases hcell
        exact Bool.eq_false_iff.2 ‹_›
    · rintro (hne | hfails)
      · split
        · exact hne
        · exact hone
      · rw [if_neg (Bool.eq_false_iff.1 (hfails cell rfl))]
        exact hone

/-! ### Histories of a group -/

theorem failures_snoc (ops : List Operation) (op : Operation) :
    s.failures (ops ++ [op]) = s.failures ops ++ ((s.performAll ops).failure? op).toList := by
  induction ops generalizing s with
  | nil => exact List.append_nil _
  | cons first ops ih =>
    change (s.failure? first).toList ++ (s.perform first).failures (ops ++ [op]) = _
    rw [ih, ← List.append_assoc]
    rfl

theorem ne_zero_of_mem_failures {ops : List Operation} {b : UInt8} (h : b ∈ s.failures ops) :
    b ≠ 0 := by
  induction ops generalizing s with
  | nil => cases h
  | cons op ops ih =>
    rcases List.mem_append.1 h with h | h
    · intro hb
      rw [Option.mem_toList, hb] at h
      exact s.failure?_ne_zero op h
    · exact ih (s.perform op) h

/-- **The flag of a group** is the last failure of its steps, and zero if none failed. -/
theorem error_performAll {ops : List Operation} (h : ∀ op ∈ ops, op.inGroup = true) :
    (s.performAll ops).flags.error = (s.failures ops).getLast?.getD s.flags.error := by
  induction ops using List.reverseRecOn with
  | nil => rfl
  | append_singleton ops op ih =>
    have hops := ih fun o ho => h o (List.mem_append_left _ ho)
    rw [performAll_snoc, error_perform _ (h op (by simp)), hops, failures_snoc]
    cases (s.performAll ops).failure? op <;> simp

/-- A group without a state has failed from its start. -/
theorem last_failure_ne_zero (h : s.hasState = false) (ops : List Operation) :
    (s.failures (.begin :: ops)).getLast?.getD 0 ≠ 0 := by
  have hcell : s.context.cell = none := by simpa [hasState, Context.hasState] using h
  have hbegin : s.failure? .begin = some 1 := by rw [failure?, Context.failure?, hcell]
  have hne : s.failures (.begin :: ops) ≠ [] := by
    rw [failures, hbegin]
    exact List.cons_ne_nil _ _
  rw [List.getLast?_eq_some_getLast hne]
  exact s.ne_zero_of_mem_failures (List.getLast_mem hne)

/-- A group whose flag is as given: its steps, a value of a row in it, its value, and the next group. -/
structure FlagIs (t : Session σ) (flag : UInt8) : Prop where
  error : t.flags.error = flag
  add : ∀ row, t.accepts row = true → t.symbols.add.isSome = true →
    let next := (t.failure? (.add row)).getD flag
    (t.add row).result = .ok next ∧ (t.add row).session.flags.error = next
      ∧ Event.notes (t.observed.add row).events
        = t.given .add (Code.told flag) (some (t.laidOut row))
  remove : ∀ row, t.accepts row = true → t.symbols.remove.isSome = true →
    let next := (t.failure? (.remove row)).getD flag
    (t.remove row).result = .ok next ∧ (t.remove row).session.flags.error = next
      ∧ Event.notes (t.observed.remove row).events
        = t.given .remove (Code.told flag) (some (t.laidOut row))
  process : ∀ row, t.accepts row = true →
    (t.process row).session.flags = t.flags
      ∧ (∀ flags, ({ t with flags }.process row).result = (t.process row).result)
      ∧ Event.notes (t.observed.process row).events = t.given .process none (some (t.laidOut row))
  finish : (∃ output, t.finish.result = .ok output)
    ∧ (t.finish.result = .ok .error ↔ flag ≠ 0 ∨ ∃ cell, t.context.cell = some cell
      ∧ (t.routine.process cell.state t.context.settings t.arguments
        (Code.ofByte? flag)).outcome.isOk = false)
    ∧ Event.notes t.observed.finish.events = t.given .process (Code.told flag) (some t.arguments)
  begin : t.begin.result = .ok () ∧ (∀ flags, { t with flags }.begin = t.begin)
    ∧ t.begin.session.flags.error = (t.failure? .begin).getD 0
    ∧ Event.notes t.observed.begin.events = t.given .clear none none

/-- **The value of a group** is an error if the flag is set, and else exactly if its code does not end
well: an unset flag means that there is a state. -/
theorem finish_eq_error_iff (hinit : s.initialized = true)
    (hstate : s.hasState = false → s.flags.error ≠ 0) :
    s.finish.result = .ok .error ↔ s.flags.error ≠ 0 ∨ ∃ cell, s.context.cell = some cell
      ∧ (s.routine.process cell.state s.context.settings s.arguments
        (Code.ofByte? s.flags.error)).outcome.isOk = false := by
  rw [finish, whenInitialized, if_pos hinit, value_eq_error_iff]
  refine or_congr_right' fun hzero => ?_
  have hcell : s.context.cell.isSome = true := by
    by_contra hnone
    exact hzero (hstate (Bool.eq_false_iff.2 hnone))
  obtain ⟨cell, hcell⟩ := Option.isSome_iff_exists.1 hcell
  constructor
  · exact fun hfails => ⟨cell, hcell, hfails cell hcell⟩
  · rintro ⟨cell', hcell', hfails⟩ cell'' hcell''
    rw [hcell'] at hcell''
    cases hcell''
    exact hfails

/-- The flag that a group has decides all that comes after. -/
theorem flagIs_error (hinit : s.initialized = true) (hclear : s.symbols.clear.isSome = true)
    (hstate : s.hasState = false → s.flags.error ≠ 0) : s.FlagIs s.flags.error where
  error := rfl
  add row hrow hadd :=
    have hstep := s.error_add hrow hadd
    ⟨hstep.1, hstep.2, s.notes_add hrow hadd⟩
  remove row hrow hremove :=
    have hstep := s.error_remove hrow hremove
    ⟨hstep.1, hstep.2, s.notes_remove hrow hremove⟩
  process row hrow := ⟨s.flags_process, s.process_flags, s.notes_process hrow⟩
  finish :=
    have hresult : s.finish = s.value s.flags.error := by rw [finish, whenInitialized, if_pos hinit]
    ⟨⟨_, by rw [hresult, value]⟩, s.finish_eq_error_iff hinit hstate, s.notes_finish hinit⟩
  begin :=
    have hstep := s.error_begin hinit hclear
    ⟨hstep.1, s.begin_flags hinit hclear, hstep.2, s.notes_begin hinit hclear⟩

/-- **A failed step poisons its group, and only its group.**  A group is begun on a prepared aggregate,
and rows are folded in and taken out, with values of rows asked for in between.  The flag is the last
failure of its steps, or zero, and each step gives it back and is told of it; a value of a row is not
told of it and leaves it; the value of the group is an error if the flag is set, and else exactly if
its code does not end well; and the next group begins without it. -/
theorem failed_step_poisons_its_group (hinit : s.initialized = true)
    (hclear : s.symbols.clear.isSome = true) {ops : List Operation}
    (hops : ∀ op ∈ ops, op.inGroup = true) :
    s.begin.result = .ok ()
      ∧ Event.notes s.observed.begin.events = s.given .clear none none
      ∧ (s.performAll (.begin :: ops)).FlagIs ((s.failures (.begin :: ops)).getLast?.getD 0) := by
  have hkept : Kept s (s.performAll (.begin :: ops)) := by
    refine s.kept_performAll hinit fun op hop => ?_
    rcases List.mem_cons.1 hop with rfl | hop
    · nofun
    · rintro rfl
      cases hops _ hop
  have hflag : (s.performAll (.begin :: ops)).flags.error
      = (s.failures (.begin :: ops)).getLast?.getD 0 := by
    refine (s.begin.session.error_performAll hops).trans ?_
    rw [(s.error_begin hinit hclear).2]
    cases hfirst : s.failure? .begin <;> simp [failures, hfirst, perform, List.getLast?_cons]
  refine ⟨(s.error_begin hinit hclear).1, s.notes_begin hinit hclear, ?_⟩
  rw [← hflag]
  refine flagIs_error _ (hkept.initialized.trans hinit) (by rw [hkept.symbols, hclear]) fun hnone => ?_
  rw [hflag]
  exact s.last_failure_ne_zero (hkept.hasState ▸ hnone) ops

/-- A group with a negative member, which a later member does not make good. -/
theorem failed_step_poisons_its_group_groupSum :
    let s : Session Int64 :=
      { routine := Functions.groupSum, traced := none
        symbols := ⟨"group_sum", true, some (), some (), some ⟨.longlong, ()⟩, some (), some (), none⟩
        context := ⟨.empty, some ⟨0, none⟩⟩, items := [⟨.int (some 1), "n", false⟩], types := [.int]
        buffer := [], initialized := true, flags := ⟨0, 7⟩ }
    let t := s.performAll [.begin, .add [.int (some (-1))], .process [.int none],
      .add [.int (some 5)]]
    t.flags.error = 3 ∧ t.finish.result = .ok .error := by
  intro s t
  obtain ⟨-, -, hgroup⟩ := s.failed_step_poisons_its_group rfl rfl
    (show ∀ op ∈ [Operation.add [.int (some (-1))], .process [.int none], .add [.int (some 5)]],
      op.inGroup = true by decide)
  have hflag : (s.failures [.begin, .add [.int (some (-1))], .process [.int none],
      .add [.int (some 5)]]).getLast?.getD 0 = 3 := by
    decide
  rw [hflag] at hgroup
  exact ⟨hgroup.error, hgroup.finish.2.1.2 (.inl (by decide))⟩

end Session
end Loadable
