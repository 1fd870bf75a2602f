/-
# What `init` asks for

A function's `init` can change the settings of its result and ask for conversions of its arguments, and
nothing else: it makes requests, one after the other (`Routine.Requesting`).  Of the types asked for
one argument the last counts (`wish_makeAll`), and an argument for which none was asked keeps the type
of its value (`typesOf_grant`).

`requesting_of_mem` says that every function of the catalog only makes requests.
-/

import Loadable.Catalog
import Loadable.Context
import Loadable.Proofs.Reading
import Loadable.Samples
import Mathlib.Data.List.Induction

namespace Loadable

/-- One thing that `init` asks for. -/
inductive Request where
  | setting (change : Settings.Change)
  | conversion (index : Nat) (type : SqlType)
  deriving DecidableEq, Repr

namespace Request

/-- The type that is asked for an argument. -/
def typeFor? (i : Nat) : Request → Option SqlType
  | setting _ => none
  | conversion index type => if index = i then some type else none

/-- The last type that is asked for an argument. -/
def lastFor? (rs : List Request) (i : Nat) : Option SqlType := (rs.filterMap (typeFor? i)).getLast?

theorem lastFor?_snoc (rs : List Request) (r : Request) (i : Nat) :
    lastFor? (rs ++ [r]) i = (r.typeFor? i).or (lastFor? rs i) := by
  rw [lastFor?, List.filterMap_append, List.getLast?_append, lastFor?]
  cases h : r.typeFor? i <;> simp [h]

end Request

namespace Preparation

/-- The preparation after a request. -/
def make (p : Preparation) : Request → Preparation
  | .setting change => p.set change
  | .conversion index type => p.ask index type

/-- The preparation after requests. -/
def makeAll (p : Preparation) (rs : List Request) : Preparation := rs.foldl make p

theorem makeAll_snoc (p : Preparation) (rs : List Request) (r : Request) :
    p.makeAll (rs ++ [r]) = (p.makeAll rs).make r := by
  rw [makeAll, List.foldl_append]
  rfl

theorem length_wishes_make (p : Preparation) (r : Request) :
    (p.make r).wishes.length = p.wishes.length := by
  cases r with
  | setting change => rfl
  | conversion index type => exact Wishes.length_ask ..

theorem length_wishes_makeAll (p : Preparation) (rs : List Request) :
    (p.makeAll rs).wishes.length = p.wishes.length := by
  induction rs using List.reverseRecOn with
  | nil => rfl
  | append_singleton rs r ih => rw [makeAll_snoc, length_wishes_make, ih]

/-- One request replaces the wish for its argument, and leaves the others. -/
theorem wish_make (p : Preparation) (r : Request) {i : Nat} (hi : i < p.wishes.length) :
    (p.make r).wishes[i]?.join = (r.typeFor? i).or p.wishes[i]?.join := by
  cases r with
  | setting change => rfl
  | conversion index type =>
    by_cases h : index = i
    · simp [make, ask, Wishes.ask, Request.typeFor?, h, hi]
    · simp [make, ask, Wishes.ask, Request.typeFor?, h]

/-- **The last type asked for an argument counts.** -/
theorem wish_makeAll (p : Preparation) (rs : List Request) {i : Nat} (hi : i < p.wishes.length) :
    (p.makeAll rs).wishes[i]?.join = (Request.lastFor? rs i).or p.wishes[i]?.join := by
  induction rs using List.reverseRecOn with
  | nil => rfl
  | append_singleton rs r ih =>
    rw [makeAll_snoc, wish_make _ _ (by rwa [length_wishes_makeAll]), ih, Request.lastFor?_snoc,
      Option.or_assoc]

/-- One preparation comes from another by requests. -/
def Reaches (p q : Preparation) : Prop := ∃ rs, q = p.makeAll rs

namespace Reaches

variable {p q q' : Preparation}

theorem refl (p : Preparation) : Reaches p p := ⟨[], rfl⟩

theorem trans (h : Reaches p q) (h' : Reaches q q') : Reaches p q' := by
  obtain ⟨rs, rfl⟩ := h
  obtain ⟨rs', rfl⟩ := h'
  exact ⟨rs ++ rs', by rw [makeAll, makeAll, makeAll, List.foldl_append]⟩

theorem set (h : Reaches p q) (change : Settings.Change) : Reaches p (q.set change) :=
  h.trans ⟨[.setting change], rfl⟩

theorem ask (h : Reaches p q) (index : Nat) (type : SqlType) : Reaches p (q.ask index type) :=
  h.trans ⟨[.conversion index type], rfl⟩

theorem sized (h : Reaches p q) (decimals maxLength : UInt32) :
    Reaches p (q.sized decimals maxLength) :=
  (h.set (.decimals decimals)).set (.maxLength maxLength.toUInt64)

/-- Asking for all arguments is asking for one after the other. -/
theorem askAll (h : Reaches p q) (type : SqlType) : Reaches p (q.askAll type) := by
  refine h.trans ?_
  obtain ⟨settings, wishes⟩ := q
  -- the arguments before the one whose turn it is have been asked for
  have hfrom : ∀ post pre : Wishes, Reaches ⟨settings, pre ++ post⟩
      ⟨settings, pre ++ post.map fun _ => some type⟩ := by
    intro post
    induction post with
    | nil => exact fun pre => refl _
    | cons wish post ih =>
      intro pre
      have hone : Reaches ⟨settings, pre ++ wish :: post⟩ ⟨settings, pre ++ some type :: post⟩ :=
        ⟨[.conversion pre.length type], by simp [makeAll, make, Preparation.ask, Wishes.ask]⟩
      have hrest := ih (pre ++ [some type])
      rw [List.append_assoc, List.append_assoc] at hrest
      exact hone.trans hrest
  exact hfrom wishes []

theorem ite {ε α : Type} {c : Prop} [Decidable c] {a b : Run Preparation ε α}
    (ha : Reaches p a.state) (hb : Reaches p b.state) : Reaches p (if c then a else b).state := by
  split
  · exact ha
  · exact hb

end Reaches
end Preparation

/-- A function whose `init` only makes requests. -/
def Routine.Requesting {σ : Type} (r : Routine σ) : Prop :=
  ∀ p args, Preparation.Reaches p (r.init p args).state

/-! ### The functions of the catalog -/

theorem Functions.requesting_lipsum (filler : Filler) : (lipsum filler).Requesting := by
  intro p args
  refine .ite (.refl p) ?_
  dsimp only
  split
  · exact .refl p
  · exact (Preparation.Reaches.refl p).askAll .int

theorem Functions.requesting_lookup6 (resolver : Resolver) : (lookup6 resolver).Requesting := by
  intro p args
  dsimp only [lookup6]
  split
  · exact .ite (.refl p) ((Preparation.Reaches.refl p).set (.maxLength addressLength.toUInt64))
  · exact .refl p

/-- The actions of a script ask one after the other. -/
theorem Action.reaches_prepareAll (args : List Argument) (actions : List Action)
    (p : Preparation) : Preparation.Reaches p (prepareAll args actions p).1 := by
  induction actions generalizing p with
  | nil => exact .refl p
  | cons action actions ih =>
    have hone : Preparation.Reaches p (action.prepare args p).1 := by
      cases action with
      | observe => exact .refl p
      | inspect => exact .refl p
      | log entry => exact .refl p
      | ask index type =>
        rw [prepare]
        split
        · exact (Preparation.Reaches.refl p).ask index type
        · exact .refl p
      | set change => exact (Preparation.Reaches.refl p).set change
    exact hone.trans (ih _)

open Functions in
/-- **The functions of the catalog make requests and nothing else.** -/
theorem Catalog.requesting_of_mem (outside : Outside) :
    ∀ f ∈ functions outside, ∀ script, (f.code script).Requesting := by
  have same {p : Preparation} : Preparation.Reaches p p := .refl p
  unfold functions
  simp only [List.forall_mem_append, List.forall_mem_cons, List.forall_mem_map]
  -- a line for each function, in the catalog's order
  exact ⟨⟨
    fun _ _ _ => (same.askAll .int).set (.isConst true),
    fun _ _ _ => .ite same ((same.ask 0 .int).set (.isConst false)),
    fun _ => requesting_lipsum _,
    fun _ _ _ => same,
    fun _ _ _ => same,
    fun _ _ args => .ite same (same.set (.isConst (firstIsConst args))),
    fun _ _ _ => same,
    fun _ => requesting_lookup6 _,
    fun _ _ _ => .ite same (((same.ask 0 .int).ask 1 .real).sized 10 20),
    fun _ _ _ => .ite same (((same.ask 0 .int).ask 1 .real).sized 10 20),
    fun _ _ _ => .ite same same,
    fun _ _ _ => same,
    fun _ _ _ => .ite same (same.askAll .int),
    fun _ _ _ => .ite same ((same.askAll .real).set (.decimals 4)),
    fun _ _ args => same.set (.isConst (firstIsConst args)),
    fun _ _ _ => same,
    fun _ _ _ => .ite same (same.ask 0 .int),
    fun _ _ _ => same,
    fun _ _ _ => .ite same same,
    fun _ _ _ => .ite same same,
    fun _ _ _ => .ite same (same.ask 1 .int),
    fun _ _ _ => same,
    fun _ _ _ => .ite same ((same.ask 0 .decimal).set (.decimals 2)),
    fun _ _ _ => same,
    fun _ _ _ => same.ask 1 .int,
    fun _ _ _ => same,
    fun _ _ _ => same,
    fun _ _ _ => same,
    fun _ _ _ => same,
    fun _ _ _ => same,
    fun _ _ _ => same.set (.isConst true),
    nofun⟩,
    fun _ _ script p args => Action.reaches_prepareAll args script.actions p⟩

/-! ### The types that arguments are left with -/

/-- What a successful `init` leaves in the arguments. -/
theorem Context.args_init {σ : Type} {r : Routine σ} {c : Context σ} {args : List Argument}
    (h : (c.init r args).message = none) :
    (c.init r args).args
      = (r.init (c.preparation r args) args).state.wishes.grant args := by
  unfold init at h ⊢
  cases htypes : Argument.typeError? args with
  | some e => rw [htypes] at h; cases h
  | none =>
    rw [htypes] at h
    dsimp only at h ⊢
    unfold initWith at h ⊢
    cases ho : (r.init (c.preparation r args) args).outcome with
    | ok state => rfl
    | err text => simp [ho] at h
    | panic p => simp [ho] at h

theorem typesOf_cons {a : Argument} {type : SqlType} (h : SqlType.ofNumber a.tag = .ok type)
    (args : List Argument) : Samples.typesOf (a :: args) = type :: Samples.typesOf args := by
  simp [Samples.typesOf, h, Except.toOption]

/-- The types that are read back from granted arguments: those asked for, else those of the values. -/
theorem typesOf_grant (w : Wishes) (items : List Sample) :
    Samples.typesOf (w.grant (items.map Sample.place))
      = items.mapIdx fun i item => w[i]?.join.getD item.value.type := by
  induction items generalizing w with
  | nil => cases w with
    | nil => rfl
    | cons wish w => cases wish <;> rfl
  | cons item items ih =>
    have hown : SqlType.ofNumber item.place.tag = .ok item.value.type :=
      SqlType.ofNumber_number item.value.type
    rw [List.map_cons, List.mapIdx_cons]
    cases w with
    | nil =>
      have hrest := ih []
      rw [Wishes.grant] at hrest ⊢
      · rw [typesOf_cons hown, hrest]
        simp
      all_goals nofun
    | cons wish w =>
      cases wish with
      | none =>
        rw [Wishes.grant, typesOf_cons hown, ih w]
        simp
      | some type =>
        have hasked : SqlType.ofNumber { item.place with tag := type.toTag.number }.tag
            = .ok type := SqlType.ofNumber_number type
        rw [Wishes.grant, typesOf_cons hasked, ih w]
        simp

/-- Arguments that are all asked for as one type are given as it. -/
theorem Context.typesOf_init {σ : Type} {r : Routine σ} {c : Context σ} {items : List Sample} {type : SqlType}
    (hwishes : (r.init (c.preparation r (items.map Sample.place)) (items.map Sample.place)).state.wishes
      = (c.preparation r (items.map Sample.place)).wishes.map fun _ => some type)
    (h : (c.init r (items.map Sample.place)).message = none) :
    Samples.typesOf (c.init r (items.map Sample.place)).args = items.map fun _ => type := by
  have hnone : (c.preparation r (items.map Sample.place)).wishes = Wishes.none items.length := by
    rw [Context.preparation, List.length_map]
  rw [Context.args_init h, hwishes, typesOf_grant, hnone]
  refine List.ext_getElem (by simp) fun i hi _ => ?_
  have hlen : i < items.length := by simpa using hi
  simp [Wishes.none, hlen]

end Loadable
