/-
# A statement begun anew

`init` starts from the settings that it finds, and a session is used for one statement after another.
How the `init` of an aggregate ends, what it asks for and what it sets do not depend on these settings
(`Routine.Renews`), and it sets the same each time, so what an earlier statement left of them is
overwritten (`Settings.setAll_setAll`).  So the `init` of a used session succeeds where that of an unused
one does, and leaves the same function, arguments, types and state (`Session.Renewed`), and the same
settings unless they were changed from outside.
-/

import Loadable.Proofs.Delivery
import Loadable.Proofs.Initialization
import Loadable.Proofs.Lifetime
import Loadable.Proofs.Moves

namespace Loadable

/-! ### Settings -/

namespace Settings

/-- Give settings their values, one after the other. -/
def setAll (s : Settings) (cs : List Change) : Settings := cs.foldl set s

theorem setAll_append (s : Settings) (cs ds : List Change) :
    s.setAll (cs ++ ds) = (s.setAll cs).setAll ds := List.foldl_append ..

/-- A change either overwrites the one before or has nothing to do with it. -/
theorem set_set (s : Settings) (c d : Change) :
    (s.set c).set d = s.set d ∨ (s.set c).set d = (s.set d).set c := by
  cases c <;> cases d <;> first | exact .inl rfl | exact .inr rfl

theorem set_set_self (s : Settings) (c : Change) : (s.set c).set c = s.set c := by
  cases c <;> rfl

/-- A change that is made again later is not needed. -/
theorem setAll_set {c : Change} {cs : List Change} (h : c ∈ cs) (s : Settings) :
    (s.set c).setAll cs = s.setAll cs := by
  induction cs generalizing s with
  | nil => cases h
  | cons d cs ih =>
    change ((s.set c).set d).setAll cs = (s.set d).setAll cs
    rcases List.mem_cons.1 h with rfl | h
    · rw [set_set_self]
    · rcases s.set_set c d with hset | hset
      · rw [hset]
      · rw [hset, ih h]

/-- **Changes that are all made again later are not needed.** -/
theorem setAll_setAll {cs ds : List Change} (h : ds ⊆ cs) (s : Settings) :
    (s.setAll ds).setAll cs = s.setAll cs := by
  induction ds generalizing s with
  | nil => rfl
  | cons d ds ih =>
    obtain ⟨hd, hds⟩ := List.cons_subset.1 h
    exact (ih hds (s.set d)).trans (setAll_set hd s)

end Settings

/-! ### Code of `init` -/

/-- Code that does not depend on the settings it starts from: how it ends and what it asks for are the
same from all of them.  Of the given changes it makes some, and all if it ends well. -/
def Renewing {σ : Type} (changes : List Settings.Change)
    (code : Settings → Run Preparation String σ) : Prop :=
  ∃ wishes outcome made, made ⊆ changes ∧ (∀ state, outcome = .ok state → made = changes)
    ∧ ∀ settings, (code settings).state = ⟨settings.setAll made, wishes⟩
      ∧ (code settings).outcome = outcome

namespace Renewing

variable {σ : Type} {changes : List Settings.Change}

/-- Code that makes all changes. -/
theorem made (wishes : Wishes) {outcome : Outcome String σ} {events : Settings → List Event} :
    Renewing changes fun s => ⟨⟨s.setAll changes, wishes⟩, outcome, events s⟩ :=
  ⟨wishes, outcome, changes, List.Subset.refl _, fun _ _ => rfl, fun _ => ⟨rfl, rfl⟩⟩

/-- Code that does nothing and fails. -/
theorem failed {wishes : Wishes} {outcome : Outcome String σ} {events : Settings → List Event}
    (h : ∀ state, outcome ≠ .ok state) :
    Renewing changes fun s => ⟨⟨s, wishes⟩, outcome, events s⟩ :=
  ⟨wishes, outcome, [], List.nil_subset _, fun state hok => absurd hok (h state),
    fun _ => ⟨rfl, rfl⟩⟩

theorem ite {c : Prop} [Decidable c] {f g : Settings → Run Preparation String σ}
    (hf : Renewing changes f) (hg : Renewing changes g) :
    Renewing changes fun s => if c then f s else g s := by
  by_cases h : c
  · simpa only [if_pos h] using hf
  · simpa only [if_neg h] using hg

end Renewing

/-- A function whose `init` does not depend on the settings it starts from, and makes these changes. -/
def Routine.Renews {σ : Type} (r : Routine σ) (changes : List Settings.Change) : Prop :=
  ∀ wishes args, Renewing changes fun settings => r.init ⟨settings, wishes⟩ args

/-- The setting that an action of a script changes. -/
def Action.change? : Action → Option Settings.Change
  | set change => some change
  | _ => none

/-- What the actions of a script set and ask for does not depend on the settings. -/
theorem Action.prepareAll_eq (args : List Argument) (actions : List Action) (wishes : Wishes) :
    ∃ wishes', ∀ settings, (prepareAll args actions ⟨settings, wishes⟩).1
      = ⟨settings.setAll (actions.filterMap change?), wishes'⟩ := by
  induction actions generalizing wishes with
  | nil => exact ⟨wishes, fun _ => rfl⟩
  | cons action actions ih =>
    cases action with
    | observe => exact ih wishes
    | inspect => exact ih wishes
    | log entry => exact ih wishes
    | set change =>
      obtain ⟨wishes', hrest⟩ := ih wishes
      exact ⟨wishes', fun settings => hrest (settings.set change)⟩
    | ask index type =>
      by_cases h : index < args.length
      · obtain ⟨wishes', hrest⟩ := ih (wishes.ask index type)
        refine ⟨wishes', fun settings => ?_⟩
        rw [prepareAll, prepare, if_pos h]
        exact hrest settings
      · obtain ⟨wishes', hrest⟩ := ih wishes
        refine ⟨wishes', fun settings => ?_⟩
        rw [prepareAll, prepare, if_neg h]
        exact hrest settings

theorem Scripted.renews_routine (f : Scripted) (script : Script) :
    (f.routine script).Renews (script.actions.filterMap Action.change?) := by
  intro wishes args
  obtain ⟨wishes', hall⟩ := Action.prepareAll_eq args script.actions wishes
  refine ⟨wishes', _, _, List.Subset.refl _, fun _ _ => rfl, fun settings => ⟨hall settings, rfl⟩⟩

namespace Catalog

open Functions Registered Renewing

/-- The functions of groups. -/
def aggregates : List Registered :=
  [grouping ["avg2"] "udf_examples::avg2::Avg2" avg2 true,
    grouping ["avg_cost"] "udf_examples::avg_cost::AvgCost" avgCost false,
    grouping ["udf_median"] "udf_examples::median::UdfMedian" udfMedian false,
    grouping ["log_calls"] "udf_examples::log_calls::LogCalls" logCalls true,
    grouping ["group_sum"] "GroupSum" groupSum true,
    grouping ["collect_words", "words"] "CollectWords" collectWords false,
    grouping ["volatile"] "Volatile" volatile false,
    grouping ["avg_real", "mean", "average"] "Avg" avgReal true] ++ Scripted.all.map ofScripted

theorem filter_aggregate (outside : Outside) :
    (functions outside).filter (·.aggregate) = aggregates := rfl

theorem mem_aggregates {outside : Outside} {f : Registered} (hf : f ∈ functions outside)
    (h : f.aggregate = true) : f ∈ aggregates := by
  rw [← filter_aggregate outside]
  exact List.mem_filter.2 ⟨hf, h⟩

/-- **The aggregates of the catalog** begin every statement alike. -/
theorem renews_of_mem {outside : Outside} {f : Registered} (hf : f ∈ functions outside)
    (h : f.aggregate = true) (script : Script) : ∃ changes, (f.code script).Renews changes := by
  have hall : ∀ f ∈ aggregates, ∀ script, ∃ changes, (f.code script).Renews changes := by
    unfold aggregates
    simp only [List.forall_mem_append, List.forall_mem_cons, List.forall_mem_map]
    exact ⟨⟨
      fun _ => ⟨[.decimals 10, .maxLength 20], fun wishes _ =>
        .ite (.failed nofun) (made ((wishes.ask 0 .int).ask 1 .real))⟩,
      fun _ => ⟨[.decimals 10, .maxLength 20], fun wishes _ =>
        .ite (.failed nofun) (made ((wishes.ask 0 .int).ask 1 .real))⟩,
      fun _ => ⟨[], fun _ _ => .ite (.failed nofun) (made _)⟩,
      fun _ => ⟨[], fun _ _ => made _⟩,
      fun _ => ⟨[], fun wishes _ => .ite (.failed nofun) (made (wishes.ask 0 .int))⟩,
      fun _ => ⟨[], fun _ _ => made _⟩,
      fun _ => ⟨[], fun _ _ => .ite (.failed nofun) (made _)⟩,
      fun _ => ⟨[], fun _ _ => made _⟩,
      nofun⟩,
      fun f _ script => ⟨_, f.renews_routine script⟩⟩
  exact hall f (mem_aggregates hf h) script

end Catalog
/-! ### Contexts -/

/-- What `init` sets before its code runs: NULL is declared possible where it is. -/
def Routine.declared {σ : Type} (r : Routine σ) : List Settings.Change :=
  if r.returns.optional then [.maybeNull true] else []

namespace Context

variable {σ : Type} {r : Routine σ} {changes : List Settings.Change} {args : List Argument}

theorem preparation_declared (r : Routine σ) (c : Context σ) (args : List Argument) :
    c.preparation r args = ⟨c.settings.setAll r.declared, Wishes.none args.length⟩ := by
  unfold preparation Routine.declared
  cases r.returns.optional <;> rfl

/-- What `init` changes it would change again. -/
theorem setAll_settings_init (hr : r.Renews changes) (c : Context σ) (args : List Argument) :
    (c.init r args).context.settings.setAll (r.declared ++ changes)
      = c.settings.setAll (r.declared ++ changes) := by
  cases htypes : Argument.typeError? args with
  | some e => rw [c.init_refused r args htypes]
  | none =>
    obtain ⟨wishes, outcome, made, hmade, -, hcode⟩ := hr (Wishes.none args.length) args
    rw [c.init_checked r args (Argument.typeError?_eq_none_iff.1 htypes), settings_initWith,
      preparation_declared, (hcode _).1]
    dsimp only
    rw [← Settings.setAll_append c.settings]
    refine Settings.setAll_setAll (List.append_subset.2 ⟨?_, ?_⟩) c.settings
    · exact List.subset_append_left ..
    · exact List.Subset.trans hmade (List.subset_append_right ..)

/-- **A successful `init`** would succeed in every other context too: it makes all its changes, and leaves
a state and arguments that do not depend on the context. -/
theorem init_renewed (hr : r.Renews changes) {d : Context σ}
    (h : (d.init r args).message = none) : ∃ state granted, ∀ c : Context σ, ∃ events,
      c.init r args
        = ⟨⟨c.settings.setAll (r.declared ++ changes), some ⟨state, none⟩⟩, granted, none, events⟩ := by
  cases htypes : Argument.typeError? args with
  | some e =>
    rw [d.init_refused r args htypes] at h
    cases h
  | none =>
    obtain ⟨wishes, outcome, made, -, hall, hcode⟩ := hr (Wishes.none args.length) args
    have hgood := Argument.typeError?_eq_none_iff.1 htypes
    rw [d.init_checked r args hgood, preparation_declared] at h
    obtain ⟨state, hstate, -⟩ := d.initWith_made args _ h
    have hmade := hall state ((hcode _).2.symm.trans hstate)
    refine ⟨state, wishes.grant args, fun c => ?_⟩
    obtain ⟨hprepared, houtcome⟩ := hcode (c.settings.setAll r.declared)
    have hok := houtcome.trans ((hcode (d.settings.setAll r.declared)).2.symm.trans hstate)
    rw [hmade, ← Settings.setAll_append] at hprepared
    rw [c.init_checked r args hgood, preparation_declared]
    dsimp only at hok hprepared
    rw [initWith, hok, hprepared]
    exact ⟨_, rfl⟩

end Context

/-! ### Sessions -/

namespace Session

variable {σ : Type} {s t : Session σ} {changes : List Settings.Change}

/-- Without a symbol for `init` no state is ever made. -/
def Unmade (s : Session σ) : Prop := s.symbols.init = none → s.hasState = false

theorem Move.unmade (hmove : Move s t) (h : s.Unmade) : t.Unmade := by
  intro hinit
  have hnone := hmove.symbols ▸ hinit
  cases hmove with
  | row row => exact h hnone
  | prepare items => exact h hnone
  | leave => exact h hnone
  | value error => exact (Context.hasState_process ..).trans (h hnone)
  | step kind count hstep =>
    obtain ⟨part, code, flags, rfl⟩ := hstep.exists_stepWith
    exact (Context.hasState_stepWith ..).trans (h hnone)
  | enter items hsome => simp [hnone] at hsome
  | giveUp => exact Context.hasState_deinit ..

/-- The settings are as the function's changes leave them, or will be once it makes them again. -/
structure Settled (changes : List Settings.Change) (s : Session σ) : Prop where
  unset : s.symbols.init = none → s.context.settings = .empty
  overwritten : s.context.settings.setAll (s.routine.declared ++ changes)
    = Settings.empty.setAll (s.routine.declared ++ changes)

theorem Move.settled (hmove : Move s t) (hr : s.routine.Renews changes) (h : s.Settled changes) :
    t.Settled changes := by
  have hkept (hsettings : t.context.settings = s.context.settings) : t.Settled changes :=
    ⟨by rw [hsettings, hmove.symbols]; exact h.unset,
      by rw [hsettings, hmove.routine]; exact h.overwritten⟩
  cases hmove with
  | row row => exact hkept rfl
  | prepare items => exact hkept rfl
  | leave => exact hkept rfl
  | value error => exact hkept (Context.settings_process ..)
  | step kind count hstep =>
    obtain ⟨part, code, flags, rfl⟩ := hstep.exists_stepWith
    exact hkept (Context.settings_stepWith ..)
  | giveUp => exact hkept (Context.settings_deinit ..)
  | enter items hsome =>
    obtain ⟨hroutine, hcontext⟩ := context_entered { s with items } _
    refine ⟨fun hnone => ?_, ?_⟩
    · rw [(symbols_entered { s with items } _).1] at hnone
      change s.symbols.init = none at hnone
      simp [hnone] at hsome
    · rw [hroutine, hcontext]
      exact (Context.setAll_settings_init hr _ _).trans h.overwritten

/-- After a successful `init` there is a type for each argument. -/
theorem fits_init {items : List Sample} (h : (s.init items).result = .ok ()) :
    (s.init items).session.items.length = (s.init items).session.types.length := by
  rcases (s.init_ok h).2 with ⟨-, hs⟩ | ⟨-, hmessage, hs⟩
  · rw [hs]
    simp [prepared, castItems, Samples.ownTypes]
  · rw [hs, Context.args_init hmessage, typesOf_grant]
    simp [prepared, castItems]

/-- A statement accepts the rows with a value for each of its arguments. -/
theorem accepts_init {items : List Sample} (h : (s.init items).result = .ok ()) {row : List Datum} :
    (s.init items).session.accepts row = true ↔ row.length = items.length := by
  rcases (s.init_ok h).2 with ⟨-, hs⟩ | ⟨-, hmessage, hs⟩
  · rw [hs]
    simp [accepts, prepared, Samples.ownTypes]
  · rw [hs, Context.args_init hmessage, typesOf_grant]
    simp [accepts, prepared]

/-- Two sessions that have begun a statement with the same arguments, in the same state. -/
structure Renewed (s t : Session σ) : Prop where
  routine : t.routine = s.routine
  symbols : t.symbols = s.symbols
  initialized : s.initialized = true ∧ t.initialized = true
  types : t.types = s.types
  items : t.items = s.items
  room : t.area.room = s.area.room
  cell : t.context.cell = s.context.cell

/-- **`init` succeeds in an unused session** where it does in a used one, and leaves the same. -/
theorem renewed_init (hr : s.routine.Renews changes) (hroutine : t.routine = s.routine)
    (hsymbols : t.symbols = s.symbols) (hroom : t.area.room = s.area.room) (hs : s.initialized = false)
    (hsu : s.Unmade) (htu : t.Unmade) {items : List Sample} (h : (t.init items).result = .ok ()) :
    (s.init items).result = .ok () ∧ Renewed (s.init items).session (t.init items).session := by
  obtain ⟨-, ⟨hnone, hsession⟩ | ⟨hsome, hmessage, hsession⟩⟩ := t.init_ok h
  · have hown : s.init items
        = ({ s with items }.prepared (Samples.ownTypes items)).done () := by
      rw [init, if_neg (Bool.eq_false_iff.1 hs)]
      dsimp only
      rw [← hsymbols, hnone]
      rfl
    have hcell : ∀ u : Session σ, u.hasState = false → u.context.cell = none :=
      fun u hu => by simpa [hasState, Context.hasState] using hu
    rw [hsession, hown]
    exact ⟨rfl, hroutine, hsymbols, ⟨rfl, rfl⟩, rfl, rfl, hroom,
      (hcell t (htu hnone)).trans (hcell s (hsu (hsymbols ▸ hnone))).symm⟩
  · rw [hroutine] at hmessage hsession
    obtain ⟨state, granted, hinit⟩ := Context.init_renewed hr hmessage
    obtain ⟨events, ht⟩ := hinit t.context
    obtain ⟨events', hs'⟩ := hinit s.context
    rw [s.init_called hs (hsymbols ▸ hsome), hs', hsession, ht]
    exact ⟨rfl, rfl, hsymbols, ⟨rfl, rfl⟩, rfl, rfl, hroom, rfl⟩

section Start

variable {r : Routine σ} {traced : Option Trace.Mode} {lookup : String → Option Unit}
  {name : String} {aggregate : Bool} {returns : Tag}

/-- A statement is begun with the function that the session was started for. -/
theorem routine_init (hs : start r traced lookup name aggregate returns = .ok s)
    (items : List Sample) : (s.init items).session.routine = r :=
  (s.moves_init items).routine.trans (start_fresh hs).1

/-- **A statement begun in a used session** begins in an unused one, with the same state and arguments,
whatever it was used for. -/
theorem renewed_of_start (hr : r.Renews changes)
    (hs : start r traced lookup name aggregate returns = .ok s) {before : List Operation}
    {items : List Sample} (h : ((s.performAll before).init items).result = .ok ()) :
    (s.init items).result = .ok ()
      ∧ Renewed (s.init items).session ((s.performAll before).init items).session := by
  obtain ⟨symbols, -, rfl⟩ := start_eq hs
  have hunused : Unmade ⟨r, traced, symbols, .fresh, [], [], List.replicate resultSize 0, false,
      .clear⟩ := fun _ => rfl
  refine renewed_init hr (routine_performAll _ before) (symbols_performAll _ before)
    (room_performAll _ before) rfl hunused ?_ h
  exact performAll_keeps _ (fun _ _ hmove => hmove.unmade) (fun _ _ _ h => h) hunused

end Start

/-- **The settings after `init`** do not depend on those before. -/
theorem settings_init (hr : s.routine.Renews changes) (hs : s.Settled changes)
    {items : List Sample} (h : (s.init items).result = .ok ()) :
    (s.init items).session.context.settings
      = if s.symbols.init.isSome then Settings.empty.setAll (s.routine.declared ++ changes)
        else .empty := by
  rcases (s.init_ok h).2 with ⟨hnone, hsession⟩ | ⟨hsome, hmessage, hsession⟩
  · rw [hsession, hnone]
    exact hs.unset hnone
  · obtain ⟨state, granted, hinit⟩ := Context.init_renewed hr hmessage
    obtain ⟨events, hreply⟩ := hinit s.context
    rw [hsession, hreply, if_pos hsome]
    exact hs.overwritten

end Session
end Loadable
