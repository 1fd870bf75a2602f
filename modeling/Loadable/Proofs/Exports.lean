/-
# What a registration exports

An implementation has callbacks that it exports under each of its names (`Slot`): three for a function, two
or three for the groups of an aggregate (`Role.slots?`).  The symbol of each is what the name with its ending
reads as.  A registration that is not refused emits every callback under every name, and nothing else
(`Expansion.emission`), so what holds of all slots holds of all exports: all are told the same of NULL
(`Expansion.mayBeNull_of_mem`).
-/

import Loadable.Registration.Expansion

namespace Loadable

/-- Where one step after another succeeds, both do. -/
theorem Except.exists_of_bind {ε α β : Type} {x : Except ε α} {f : α → Except ε β} {b : β}
    (h : x >>= f = .ok b) : ∃ a, x = .ok a ∧ f a = .ok b := by
  cases x with
  | error e => cases h
  | ok a => exact ⟨a, rfl, h⟩

/-- What has a result with a property has a result. -/
theorem Except.exists_of_any {ε α : Type} {x : Except ε α} {p : α → Bool}
    (h : x.toOption.any p = true) : ∃ a, x = .ok a ∧ p a = true := by
  cases x with
  | error e => cases h
  | ok a => exact ⟨a, rfl, h⟩

/-- Each result of steps taken for the members of a list is that of one of them. -/
theorem Except.exists_of_mem_mapM {ε α β : Type} {f : α → Except ε β} {as : List α} {bs : List β}
    (h : as.mapM f = .ok bs) {b : β} (hb : b ∈ bs) : ∃ a ∈ as, f a = .ok b := by
  induction as generalizing bs with
  | nil =>
    cases h
    cases hb
  | cons a as ih =>
    rw [List.mapM_cons] at h
    obtain ⟨b', hfirst, h⟩ := exists_of_bind h
    obtain ⟨bs', hrest, h⟩ := exists_of_bind h
    cases h
    rcases List.mem_cons.1 hb with rfl | hb
    · exact ⟨a, List.mem_cons_self, hfirst⟩
    · obtain ⟨a', ha', hb⟩ := ih hrest hb
      exact ⟨a', List.mem_cons_of_mem a ha', hb⟩

/-- Each step of those taken for the members of a list has its result among theirs. -/
theorem Except.exists_mem_of_mapM {ε α β : Type} {f : α → Except ε β} {as : List α} {bs : List β}
    (h : as.mapM f = .ok bs) {a : α} (ha : a ∈ as) : ∃ b ∈ bs, f a = .ok b := by
  induction as generalizing bs with
  | nil => cases ha
  | cons a' as ih =>
    rw [List.mapM_cons] at h
    obtain ⟨b', hfirst, h⟩ := exists_of_bind h
    obtain ⟨bs', hrest, h⟩ := exists_of_bind h
    cases h
    rcases List.mem_cons.1 ha with rfl | ha
    · exact ⟨b', List.mem_cons_self, hfirst⟩
    · obtain ⟨b, hb, hf⟩ := ih hrest ha
      exact ⟨b, List.mem_cons_of_mem _ hb, hf⟩

/-- Steps taken for the members of a list fail as one of them does. -/
theorem Except.exists_of_mapM_error {ε α β : Type} {f : α → Except ε β} {as : List α} {e : ε}
    (h : as.mapM f = .error e) : ∃ a ∈ as, f a = .error e := by
  induction as with
  | nil => cases h
  | cons a as ih =>
    rw [List.mapM_cons] at h
    cases hfirst : f a with
    | error e' =>
      rw [hfirst] at h
      cases h
      exact ⟨a, List.mem_cons_self, hfirst⟩
    | ok b =>
      cases hrest : as.mapM f with
      | error e' =>
        rw [hfirst, hrest] at h
        cases h
        obtain ⟨a', ha', hfails⟩ := ih hrest
        exact ⟨a', List.mem_cons_of_mem a ha', hfails⟩
      | ok bs =>
        rw [hfirst, hrest] at h
        cases h

/-- Steps of which no result is used are taken all the same. -/
theorem Except.forM_discard {ε α β : Type} (f : α → Except ε β) (as : List α) :
    as.forM (fun a => discard (f a)) = discard (as.mapM f) := by
  induction as with
  | nil => rfl
  | cons a as ih =>
    rw [List.mapM_cons]
    change (discard (f a) >>= fun _ => as.forM fun a => discard (f a)) = _
    rw [ih]
    cases f a with
    | error e => rfl
    | ok b => cases as.mapM f <;> rfl

/-- An implementation. -/
def Source.implementation? (s : String) : Option Source.Implementation :=
  (Source.tokens? s).bind (Source.read? Source.Parser.implementation)

namespace Registration

open Source (Token Implementation)

/-- What had to be there is there. -/
theorem eq_some_of_required {α : Type} {r : Refusal} {o : Option α} {a : α}
    (h : required r o = .ok a) : o = some a := by
  cases o with
  | none => cases h
  | some b => exact congrArg some (Except.ok.inj h)

/-- A callback that is exported under every name, with an ending. -/
structure Slot where
  ending : String
  kind : CallbackKind
  handler : Handler

/-- The callback under a name, if its symbol is an identifier. -/
def Slot.emit? (slot : Slot) (name : String) : Except Refusal Export := do
  return ⟨← symbolName name slot.ending, slot.kind, slot.handler⟩

/-- Only the symbol of a callback depends on the name. -/
theorem Slot.emit?_eq_ok_iff {slot : Slot} {name : String} {x : Export} :
    slot.emit? name = .ok x ↔ symbolName name slot.ending = .ok x.symbol ∧ x.kind = slot.kind
      ∧ x.handler = slot.handler := by
  unfold emit?
  cases symbolName name slot.ending with
  | error r => exact ⟨nofun, nofun⟩
  | ok symbol =>
    obtain ⟨s, kind, handler⟩ := x
    constructor
    · rintro ⟨⟩
      exact ⟨rfl, rfl, rfl⟩
    · rintro ⟨⟨⟩, rfl, rfl⟩
      rfl

/-! ### The callbacks of a function -/

section Slots

variable (s : Shape) (self : List Token)

def Shape.initSlot : Slot := ⟨"_init", .init, .init (s.state self) self s.returns.optional⟩

def Shape.deinitSlot : Slot := ⟨"_deinit", .deinit, .deinit (s.state self) self⟩

/-- The callback for a value goes by the name itself. -/
def Shape.valueSlot : Slot := ⟨"", s.returns.carrier.kind.toKind, s.handler self⟩

def clearSlot : Slot := ⟨"_clear", .clear, .clear (registeredState self) self⟩

def addSlot : Slot := ⟨"_add", .add, .add (registeredState self) self⟩

def removeSlot : Slot := ⟨"_remove", .add, .remove (registeredState self) self⟩

/-- The callbacks of a function whose return type has a shape. -/
def Shape.slots : List Slot := [s.initSlot self, s.deinitSlot self, s.valueSlot self]

/-- The callbacks for groups. -/
def groupSlots (removes : Bool) : List Slot :=
  [clearSlot self, addSlot self] ++ if removes then [removeSlot self] else []

variable {s self} {slot : Slot}

theorem Shape.eq_of_mem_slots (h : slot ∈ s.slots self) :
    slot = s.initSlot self ∨ slot = s.deinitSlot self ∨ slot = s.valueSlot self := by
  simpa [slots] using h

theorem eq_of_mem_groupSlots {removes : Bool} (h : slot ∈ groupSlots self removes) :
    slot = clearSlot self ∨ slot = addSlot self ∨ slot = removeSlot self := by
  unfold groupSlots at h
  cases removes with
  | false =>
    have hmem : slot = clearSlot self ∨ slot = addSlot self := by simpa using h
    exact hmem.imp_right .inl
  | true => simpa using h

end Slots

/-- The callbacks of an implementation, if it says what they give. -/
def Role.slots? (i : Implementation) : Role → Option (List Slot)
  | .basic => (i.type? "Returns").map fun type => (Shape.ofType type).slots i.selfType.tokens
  | .aggregate => some (groupSlots i.selfType.tokens (i.hasFunction "remove"))

theorem functionExports_eq_mapM (self : List Token) (s : Shape) (name : String) :
    functionExports self s name = (s.slots self).mapM (·.emit? name) := by
  unfold functionExports Shape.slots
  simp only [List.mapM_cons, List.mapM_nil, Slot.emit?, Shape.initSlot, Shape.deinitSlot,
    Shape.valueSlot, bind_assoc, pure_bind]

theorem aggregateExports_eq_mapM (self : List Token) (removes : Bool) (name : String) :
    aggregateExports self removes name = (groupSlots self removes).mapM (·.emit? name) := by
  unfold aggregateExports groupSlots
  cases removes <;>
    simp [Slot.emit?, clearSlot, addSlot, removeSlot]

/-! ### What callbacks are told of NULL -/

/-- What a handler is told of NULL, if anything. -/
def Handler.mayBeNull? : Handler → Option Bool
  | .init _ _ mayBeNull => some mayBeNull
  | .number _ _ _ optional => some optional
  | .borrowed _ _ optional => some optional
  | .owned _ _ optional => some optional
  | .deinit _ _ => none
  | .clear _ _ => none
  | .add _ _ => none
  | .remove _ _ => none

theorem Shape.mayBeNull?_handler (s : Shape) (self : List Token) :
    (s.handler self).mayBeNull? = some s.returns.optional := by
  unfold handler
  cases s.returns.carrier <;> rfl

/-- What the callbacks of a function are told of NULL is what its return type says. -/
theorem Shape.mayBeNull_of_mem_slots {s : Shape} {self : List Token} {slot : Slot}
    (h : slot ∈ s.slots self) {b : Bool} (hb : slot.handler.mayBeNull? = some b) :
    b = s.returns.optional := by
  rcases eq_of_mem_slots h with rfl | rfl | rfl
  · exact (Option.some.inj hb).symm
  · cases hb
  · rw [valueSlot, mayBeNull?_handler] at hb
    exact (Option.some.inj hb).symm

/-- The callbacks for groups are told nothing. -/
theorem mayBeNull?_of_mem_groupSlots {self : List Token} {removes : Bool} {slot : Slot}
    (h : slot ∈ groupSlots self removes) : slot.handler.mayBeNull? = none := by
  rcases eq_of_mem_groupSlots h with rfl | rfl | rfl <;> rfl

/-! ### All names -/

/-- Exports that are each of some slots under each of some names, and nothing else. -/
structure Emission (exports : List Export) (names : List String) (slots : List Slot) : Prop where
  sound : ∀ x ∈ exports, ∃ name ∈ names, ∃ slot ∈ slots, slot.emit? name = .ok x
  complete : ∀ name ∈ names, ∀ slot ∈ slots, ∃ x ∈ exports, slot.emit? name = .ok x

theorem emission_exportsOf {names : Names} {exportsFor : String → Except Refusal (List Export)}
    {slots : List Slot} {exports : List Export}
    (hfor : ∀ name, exportsFor name = slots.mapM (·.emit? name))
    (h : exportsOf names exportsFor = .ok exports) : Emission exports names.all slots := by
  obtain rfl : exportsFor = fun name => slots.mapM (·.emit? name) := funext hfor
  obtain ⟨all, hall, h⟩ := Except.exists_of_bind h
  cases h
  refine ⟨fun x hx => ?_, fun name hname slot hslot => ?_⟩
  · obtain ⟨xs, hxs, hx⟩ := List.mem_flatten.1 hx
    obtain ⟨name, hname, hxs⟩ := Except.exists_of_mem_mapM hall hxs
    obtain ⟨slot, hslot, hx⟩ := Except.exists_of_mem_mapM hxs hx
    exact ⟨name, hname, slot, hslot, hx⟩
  · obtain ⟨xs, hxs, hname⟩ := Except.exists_mem_of_mapM hall hname
    obtain ⟨x, hx, hslot⟩ := Except.exists_mem_of_mapM hname hslot
    exact ⟨x, List.mem_flatten_of_mem hxs hx, hslot⟩

/-- The names of a declaration. -/
def Declaration.names : Declaration → Names
  | function _ _ names => names
  | aggregate _ names => names

namespace Expansion

variable {given : GivenNames} {i : Implementation} {e : Expansion}

/-- What is added for texts is what is added for the names and the implementation that they are. -/
theorem read_eq {arguments item : String} {given : GivenNames} {i : Implementation}
    (hgiven : GivenNames.read arguments = .ok given) (hitem : Source.implementation? item = some i) :
    read arguments item = (ofImplementation given i).mapError .refused := by
  unfold GivenNames.read at hgiven
  split at hgiven
  case h_1 => cases hgiven
  case h_2 argumentTokens harguments =>
    obtain ⟨itemTokens, htokens, hread⟩ := Option.bind_eq_some_iff.1 hitem
    unfold read
    simp only [harguments, htokens, hgiven, hread]
    rfl

/-- A registration that passes its checks adds what its role says, which its trait tells. -/
theorem exists_ofRole {given : GivenNames} {i : Implementation} {e : Expansion}
    (h : ofImplementation given i = .ok e) :
    ∃ names role, i.trait.bind Role.ofPath? = some role ∧ ofRole names i role = .ok e := by
  obtain ⟨role, hrole, h⟩ := Except.exists_of_bind h
  by_cases hparameters : i.parameters ≠ 0
  · simp only [if_pos hparameters] at h
    cases h
  · simp only [if_neg hparameters] at h
    obtain ⟨path, -, h⟩ := Except.exists_of_bind h
    obtain ⟨last, -, h⟩ := Except.exists_of_bind h
    obtain ⟨_, -, h⟩ := Except.exists_of_bind h
    exact ⟨Names.ofGiven given last.name, role, eq_some_of_required hrole, h⟩

/-- **A function that is registered** declares its state, and its callbacks are emitted under all its
names. -/
theorem emission_function (h : ofImplementation given i = .ok e)
    (hrole : i.trait.bind Role.ofPath? = some .basic) :
    ∃ type names, i.type? "Returns" = some type
      ∧ e.declaration = .function i.selfType.tokens ((Shape.ofType type).state i.selfType.tokens) names
      ∧ Emission e.exports names.all ((Shape.ofType type).slots i.selfType.tokens) := by
  obtain ⟨names, role, hsame, h⟩ := exists_ofRole h
  obtain rfl := Option.some.inj (hsame.symm.trans hrole)
  obtain ⟨type, htype, h⟩ := Except.exists_of_bind h
  obtain ⟨exports, hexports, h⟩ := Except.exists_of_bind h
  cases h
  exact ⟨type, names, eq_some_of_required htype, rfl,
    emission_exportsOf (functionExports_eq_mapM _ _) hexports⟩

/-- **Groups that are registered** have their callbacks emitted under all their names. -/
theorem emission_aggregate (h : ofImplementation given i = .ok e)
    (hrole : i.trait.bind Role.ofPath? = some .aggregate) :
    ∃ names, e.declaration = .aggregate i.selfType.tokens names
      ∧ Emission e.exports names.all (groupSlots i.selfType.tokens (i.hasFunction "remove")) := by
  obtain ⟨names, role, hsame, h⟩ := exists_ofRole h
  obtain rfl := Option.some.inj (hsame.symm.trans hrole)
  obtain ⟨exports, hexports, h⟩ := Except.exists_of_bind h
  cases h
  exact ⟨names, rfl, emission_exportsOf (aggregateExports_eq_mapM _ _) hexports⟩

/-- **A registration emits** the callbacks of its role under all its names. -/
theorem emission (h : ofImplementation given i = .ok e) :
    ∃ role slots, i.trait.bind Role.ofPath? = some role ∧ role.slots? i = some slots
      ∧ Emission e.exports e.declaration.names.all slots := by
  obtain ⟨-, role, hrole, -⟩ := exists_ofRole h
  cases role with
  | basic =>
    obtain ⟨type, names, htype, hdeclaration, hemission⟩ := emission_function h hrole
    rw [hdeclaration]
    refine ⟨.basic, _, hrole, ?_, hemission⟩
    rw [Role.slots?, htype]
    rfl
  | aggregate =>
    obtain ⟨names, hdeclaration, hemission⟩ := emission_aggregate h hrole
    rw [hdeclaration]
    exact ⟨.aggregate, _, hrole, rfl, hemission⟩

/-- **A registration tells all its callbacks the same of NULL,** what the return type says. -/
theorem mayBeNull_of_mem (h : ofImplementation given i = .ok e) {x : Export} (hx : x ∈ e.exports)
    {b : Bool} (hb : x.handler.mayBeNull? = some b) :
    ∃ type, i.type? "Returns" = some type ∧ b = (Shape.ofType type).returns.optional := by
  obtain ⟨role, slots, -, hslots, hemission⟩ := emission h
  obtain ⟨name, -, slot, hslot, hemit⟩ := hemission.sound x hx
  rw [(Slot.emit?_eq_ok_iff.1 hemit).2.2] at hb
  cases role with
  | basic =>
    obtain ⟨type, htype, rfl⟩ := Option.map_eq_some_iff.1 hslots
    exact ⟨type, htype, Shape.mayBeNull_of_mem_slots hslot hb⟩
  | aggregate =>
    obtain rfl := Option.some.inj hslots
    rw [mayBeNull?_of_mem_groupSlots hslot] at hb
    cases hb

end Expansion
end Registration
end Loadable
