/-
# NULL only where it is declared

A function whose values may be NULL declares so to the server: its return type says it, `init` is told
so and writes it into the settings before its code runs.  NULL can only come of a call with a state, and
a state only of an `init` that succeeded; so if no code of `init` takes the declaration back, it stands
wherever NULL comes out (`Session.nulls_are_declared`).  None of the catalog's does
(`Catalog.keepsNullable_of_mem`), and the macro tells one and the same to `init` and to the callback for
the value (`Registration.Expansion.mayBeNull_of_mem`).
-/

import Loadable.Proofs.Exports
import Loadable.Proofs.Initialization
import Loadable.Proofs.Lifetime
import Loadable.Proofs.Moves
import Loadable.Proofs.Outputs

namespace Loadable

/-! ### What code of `init` leaves declared -/

/-- A function whose `init` does not take back that NULL is possible. -/
def Routine.KeepsNullable {σ : Type} (r : Routine σ) : Prop :=
  ∀ p args, p.settings.maybeNull = true → (r.init p args).state.settings.maybeNull = true

/-- A function that may return NULL and lets that be declared. -/
structure Routine.DeclaresNull {σ : Type} (r : Routine σ) : Prop where
  optional : r.returns.optional = true
  keeps : r.KeepsNullable

theorem Functions.keepsNullable_lipsum (filler : Filler) : (lipsum filler).KeepsNullable := by
  intro p args h
  unfold lipsum
  dsimp only
  split_ifs
  · exact h
  · split
    · exact h
    · exact h

theorem Functions.keepsNullable_lookup6 (resolver : Resolver) : (lookup6 resolver).KeepsNullable := by
  intro p args h
  unfold lookup6
  dsimp only
  split
  · split_ifs
    · exact h
    · exact h
  · exact h

/-- The actions of a script leave NULL declared if none of them is to take it back. -/
theorem Action.maybeNull_prepareAll (args : List Argument) {actions : List Action}
    (hactions : .set (.maybeNull false) ∉ actions) {p : Preparation}
    (h : p.settings.maybeNull = true) :
    (prepareAll args actions p).1.settings.maybeNull = true := by
  induction actions generalizing p with
  | nil => exact h
  | cons action actions ih =>
    refine ih (fun hmem => hactions (List.mem_cons_of_mem _ hmem)) ?_
    cases action with
    | observe => exact h
    | inspect => exact h
    | log entry => exact h
    | ask index type =>
      dsimp only
      split <;> exact h
    | set change =>
      cases change with
      | maybeNull v =>
        cases v with
        | true => rfl
        | false => exact absurd List.mem_cons_self hactions
      | decimals v => exact h
      | maxLength v => exact h
      | isConst v => exact h

theorem Run.maybeNull_ite {ε α : Type} {c : Prop} [Decidable c] {a b : Run Preparation ε α}
    (ha : a.state.settings.maybeNull = true) (hb : b.state.settings.maybeNull = true) :
    (if c then a else b).state.settings.maybeNull = true := by
  split
  · exact ha
  · exact hb

open Functions in
/-- **No function of the catalog takes back** that NULL is possible, unless a script says so. -/
theorem Catalog.keepsNullable_of_mem (outside : Outside) :
    ∀ f ∈ functions outside, ∀ script, .set (.maybeNull false) ∉ script.actions →
      (f.code script).KeepsNullable := by
  have plain {σ : Type} {r : Routine σ} (h : r.KeepsNullable) (script : Script)
      (_ : .set (.maybeNull false) ∉ script.actions) : r.KeepsNullable := h
  unfold functions
  simp only [List.forall_mem_append, List.forall_mem_cons, List.forall_mem_map]
  -- a line for each function, in the catalog's order
  exact ⟨⟨
    plain fun _ _ h => h,
    plain fun _ _ h => Run.maybeNull_ite h h,
    plain (keepsNullable_lipsum _),
    plain fun _ _ h => h,
    plain fun _ _ h => h,
    plain fun _ _ h => Run.maybeNull_ite h h,
    plain fun _ _ h => h,
    plain (keepsNullable_lookup6 _),
    plain fun _ _ h => Run.maybeNull_ite h h,
    plain fun _ _ h => Run.maybeNull_ite h h,
    plain fun _ _ h => Run.maybeNull_ite h h,
    plain fun _ _ h => h,
    plain fun _ _ h => Run.maybeNull_ite h h,
    plain fun _ _ h => Run.maybeNull_ite h h,
    plain fun _ _ h => h,
    plain fun _ _ h => h,
    plain fun _ _ h => Run.maybeNull_ite h h,
    plain fun _ _ h => h,
    plain fun _ _ h => Run.maybeNull_ite h h,
    plain fun _ _ h => Run.maybeNull_ite h h,
    plain fun _ _ h => Run.maybeNull_ite h h,
    plain fun _ _ h => h,
    plain fun _ _ h => Run.maybeNull_ite h h,
    plain fun _ _ h => h,
    plain fun _ _ h => h,
    plain fun _ _ h => h,
    plain fun _ _ h => h,
    plain fun _ _ h => h,
    plain fun _ _ h => h,
    plain fun _ _ h => h,
    plain fun _ _ h => h,
    nofun⟩,
    fun _ _ _ hscript _ args h => Action.maybeNull_prepareAll args hscript h⟩

/-! ### Where NULL comes from -/

namespace Verdict

theorem optional_of_null {r : Returns} {outcome : Outcome Unit r.Value}
    (h : ofOutcome r outcome = null) : r.optional = true := by
  by_contra hoptional
  cases outcome with
  | ok v =>
    cases hv : r.toOption v with
    | some payload => simp [hv] at h
    | none => exact Returns.toOption_ne_none (Bool.eq_false_iff.2 hoptional) v hv
  | err e => cases h
  | panic p => cases h

theorem eq_null_of_output {c : Carrier} {verdict : Verdict c.Payload} {room : Option Nat}
    {error : UInt8} (h : verdict.output room error = .null) : verdict = null := by
  cases verdict with
  | value v =>
    by_cases he : error = 0
    · simp [output, he, Carrier.output_ne_null] at h
    · simp [output, he] at h
  | null => rfl
  | _ => cases h

end Verdict

namespace Context

variable {σ : Type} {r : Routine σ} {c : Context σ} {args : List Argument}

/-- NULL takes a state and a return type that allows it. -/
theorem of_verdict_null {error : Option Code} (h : c.verdict r args error = .null) :
    c.hasState = true ∧ r.returns.optional = true := by
  unfold verdict at h
  unfold hasState
  cases hc : c.cell with
  | none => simp [hc] at h
  | some cell =>
    rw [hc] at h
    exact ⟨rfl, Verdict.optional_of_null h⟩

/-- `init` leaves NULL declared, if it does anything. -/
theorem maybeNull_init (hr : r.DeclaresNull) (args : List Argument) :
    (c.init r args).context = c ∨ (c.init r args).context.settings.maybeNull = true := by
  cases htypes : Argument.typeError? args with
  | some e => exact .inl (by rw [c.init_refused r args htypes])
  | none =>
    refine .inr ?_
    rw [c.init_checked r args (Argument.typeError?_eq_none_iff.1 htypes), settings_initWith]
    refine hr.keeps _ args ?_
    rw [preparation_eq, hr.optional]
    rfl

end Context

namespace Session

variable {σ : Type} {s t u : Session σ}

/-- NULL takes a state and a return type that allows it. -/
theorem of_value_null {error : UInt8} (h : (s.value error).result = .ok .null) :
    s.hasState = true ∧ s.routine.returns.optional = true := by
  rw [result_value] at h
  exact Context.of_verdict_null (Verdict.eq_null_of_output (Except.ok.inj h))

/-- One move leaves NULL declared where it is, and makes no state without declaring it. -/
theorem Move.maybeNull (h : Move s t) (hr : s.routine.DeclaresNull) :
    (s.context.settings.maybeNull = true → t.context.settings.maybeNull = true)
      ∧ (t.hasState = true → s.hasState = true ∨ t.context.settings.maybeNull = true) := by
  cases h with
  | row row => exact ⟨id, .inl⟩
  | prepare items => exact ⟨id, .inl⟩
  | leave => exact ⟨id, .inl⟩
  | value error =>
    refine ⟨fun h => ?_, fun h => .inl ?_⟩
    · exact (congrArg Settings.maybeNull (Context.settings_process ..)).trans h
    · exact (Context.hasState_process ..).symm.trans h
  | step kind count hstep =>
    obtain ⟨part, code, flags, rfl⟩ := hstep.exists_stepWith
    refine ⟨fun h => ?_, fun h => .inl ?_⟩
    · exact (congrArg Settings.maybeNull (Context.settings_stepWith ..)).trans h
    · exact (Context.hasState_stepWith ..).symm.trans h
  | giveUp =>
    refine ⟨fun h => ?_, fun h => ?_⟩
    · exact (congrArg Settings.maybeNull (Context.settings_deinit ..)).trans h
    · exact absurd ((Context.hasState_deinit ..).symm.trans h) Bool.false_ne_true
  | enter items =>
    rw [hasState, (context_entered { s with items } _).2]
    rcases Context.maybeNull_init (c := s.context) hr (items.map Sample.place)
      with hsame | hdeclared
    · rw [hsame]
      exact ⟨id, .inl⟩
    · exact ⟨fun _ => hdeclared, fun _ => .inr hdeclared⟩

/-- Some moves leave NULL declared where it is, and declare it where there is a state, if it was declared
where there was one. -/
theorem Moves.maybeNull (h : Moves s t) (hr : s.routine.DeclaresNull) :
    (s.context.settings.maybeNull = true → t.context.settings.maybeNull = true)
      ∧ ((s.hasState = true → s.context.settings.maybeNull = true) →
        t.hasState = true → t.context.settings.maybeNull = true) := by
  induction h with
  | refl => exact ⟨id, id⟩
  | tail hfirst hlast ih =>
    obtain ⟨hdeclared, hstate⟩ := ih
    obtain ⟨hdeclared', hstate'⟩ := hlast.maybeNull ((Moves.routine hfirst).symm ▸ hr)
    refine ⟨fun h => hdeclared' (hdeclared h), fun hs ht => ?_⟩
    rcases hstate' ht with ht | ht
    · exact hdeclared' (hstate hs ht)
    · exact ht

/-- NULL is declared wherever there is a state, whatever the history without a change from outside. -/
theorem maybeNull_performAll (hr : s.routine.DeclaresNull) {ops : List Operation}
    (hchange : ∀ change, .configure change ∉ ops)
    (hs : s.hasState = true → s.context.settings.maybeNull = true) :
    (s.performAll ops).hasState = true → (s.performAll ops).context.settings.maybeNull = true := by
  refine (s.performAll_keeps (P := fun t => t.routine = s.routine
    ∧ (t.hasState = true → t.context.settings.maybeNull = true)) (fun t u hmove ht => ?_)
    (fun change hmem => absurd hmem (hchange change)) ⟨rfl, hs⟩).2
  obtain ⟨hroutine, hdeclared⟩ := ht
  refine ⟨hmove.routine.trans hroutine, ?_⟩
  exact ((Moves.of_move hmove).maybeNull (hroutine.symm ▸ hr)).2 hdeclared

/-- NULL that came out on the way of an operation takes a return type that allows it, and is declared at
its end if it is declared wherever there is a state. -/
theorem Came.of_null (h : Came s u .null) :
    s.routine.returns.optional = true ∧ (s.routine.KeepsNullable →
      (s.hasState = true → s.context.settings.maybeNull = true) →
        u.context.settings.maybeNull = true) := by
  obtain ⟨t, error, hst, hnull, htu⟩ := h
  obtain ⟨hstate, hoptional⟩ := of_value_null hnull
  rw [hst.routine] at hoptional
  refine ⟨hoptional, fun hkeeps hs => ?_⟩
  have hr : s.routine.DeclaresNull := ⟨hoptional, hkeeps⟩
  have hcalled : (t.value error).session.context.settings.maybeNull = true :=
    (congrArg Settings.maybeNull (Context.settings_process ..)).trans
      ((hst.maybeNull hr).2 hs hstate)
  have hroutine : (t.value error).session.routine = s.routine := hst.routine
  exact (htu.maybeNull (hroutine.symm ▸ hr)).1 hcalled

/-- **NULL comes only from functions that declare it.**  No function of the catalog takes back, in its
`init`, that NULL is possible, unless its script says so; and all callbacks of one registration are told
the same of NULL, what the return type says.  In a session that was started, whichever symbols it found
and whatever its history: an operation gives NULL only if the return type allows it; and if the function's
code does not take it back and no setting was changed from outside, then NULL is declared. -/
theorem nulls_are_declared :
    (∀ outside, ∀ f ∈ Catalog.functions outside, ∀ script, .set (.maybeNull false) ∉ script.actions →
      (f.code script).KeepsNullable)
    ∧ (∀ given i e, Registration.Expansion.ofImplementation given i = .ok e →
      ∀ x ∈ e.exports, ∀ b, x.handler.mayBeNull? = some b →
        ∃ type, i.type? "Returns" = some type
          ∧ b = (Registration.Shape.ofType type).returns.optional)
    ∧ ∀ {σ : Type} (routine : Routine σ) (traced : Option Trace.Mode)
        (lookup : String → Option Unit) (name : String) (aggregate : Bool) (returns : Tag)
        (s : Session σ), start routine traced lookup name aggregate returns = .ok s →
      ∀ (ops : List Operation) (op : Operation), .null ∈ (s.performAll ops).outputs op →
        routine.returns.optional = true
          ∧ (routine.KeepsNullable → (∀ change, .configure change ∉ ops) →
            ((s.performAll ops).perform op).context.settings.maybeNull = true) := by
  refine ⟨Catalog.keepsNullable_of_mem, fun given i e he x hx b hb =>
    Registration.Expansion.mayBeNull_of_mem he hx hb, ?_⟩
  intro σ routine traced lookup name aggregate returns s hs ops op hnull
  obtain ⟨hroutine, hfresh, -⟩ := start_fresh hs
  have hsame : (s.performAll ops).routine = routine := (s.routine_performAll ops).trans hroutine
  obtain ⟨hoptional, hdeclared⟩ := ((s.performAll ops).came_of_mem_outputs hnull).of_null
  rw [hsame] at hoptional hdeclared
  refine ⟨hoptional, fun hkeeps hchange => hdeclared hkeeps ?_⟩
  refine maybeNull_performAll (hroutine.symm ▸ ⟨hoptional, hkeeps⟩) hchange ?_
  rw [hasState, hfresh]
  exact nofun

/-- A function that always returns NULL, asked for the value of a row and for a whole statement, and the
registration of one with such values. -/
theorem nulls_are_declared_emptyCall :
    let symbols : Symbols Unit :=
      ⟨"empty_call", false, some (), some (), some ⟨.longlong, ()⟩, none, none, none⟩
    let s : Session Unit := ⟨Functions.emptyCall, none, symbols, .fresh, [], [],
      List.replicate resultSize 0, false, .clear⟩
    let word (w : String) : Source.TypeExpr := .path false false [.mk w .none] [.word w]
    let returned : Source.TypeExpr :=
      .path false false [.mk "Option" (.angled [.type (word "i64")])] []
    let i : Source.Implementation :=
      ⟨some ⟨false, [.mk "BasicUdf" .none]⟩, 0, word "EmptyCall", [.type "Returns" returned]⟩
    ((s.performAll [.init []]).perform (.process [])).context.settings.maybeNull = true
      ∧ (s.perform (.run [] [[], []])).context.settings.maybeNull = true
      ∧ ∃ e, Registration.Expansion.ofImplementation ⟨some "empty_call", []⟩ i = .ok e
        ∧ ∀ x ∈ e.exports, ∀ b, x.handler.mayBeNull? = some b → b = true := by
  intro symbols s word returned i
  obtain ⟨-, hregistered, hsessions⟩ := nulls_are_declared
  have hall := hsessions Functions.emptyCall none (fun _ => some ()) "empty_call" false .int s rfl
  have hkeeps : Functions.emptyCall.KeepsNullable := fun _ _ h => h
  refine ⟨?_, ?_, ?_⟩
  · exact (hall [.init []] (.process []) (by decide)).2 hkeeps (by simp)
  · exact (hall [] (.run [] [[], []]) (by decide)).2 hkeeps (by simp)
  · have hok : (Registration.Expansion.ofImplementation ⟨some "empty_call", []⟩ i).toOption.isSome
        = true := by decide +kernel
    cases he : Registration.Expansion.ofImplementation ⟨some "empty_call", []⟩ i with
    | error refusal =>
      rw [he] at hok
      cases hok
    | ok e =>
      refine ⟨e, rfl, fun x hx b hb => ?_⟩
      obtain ⟨type, htype, rfl⟩ := hregistered _ i e he x hx b hb
      obtain rfl : returned = type := Option.some.inj htype
      rfl

end Session
end Loadable
