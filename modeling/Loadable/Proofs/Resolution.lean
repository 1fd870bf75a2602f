/-
# What is exported is what is looked up

The symbols of a function are made in two places: where a registration names the callbacks that it
exports, and where a server names those that it looks up.  `Slot` is what both have in common, a callback
with an ending; a registration exports each of its slots under each of its names
(`Expansion.emits_function`, `Expansion.emits_aggregate`).  If no name is another with an ending, a symbol
tells its name and its ending (`Apart.eq_of_append`), so a lookup by name and ending finds the callback
that was emitted for just these (`lookup_emit`), and nothing where none was (`lookup_eq_none`).  Hence
the server finds the function, and the aggregate, that was registered (`resolve_registered`).
-/

import Loadable.Proofs.Exports
import Loadable.Proofs.PlainNames
import Loadable.Proofs.UsableSymbols

namespace Loadable

/-- A function counts as implemented if it is among the members. -/
theorem Source.Implementation.hasFunction_eq_true_iff (i : Source.Implementation) {name : String} :
    i.hasFunction name = true ↔ .function name ∈ i.members := by
  rw [hasFunction, List.any_eq_true]
  constructor
  · rintro ⟨member, hmem, hname⟩
    cases member with
    | function n => exact of_decide_eq_true hname ▸ hmem
    | type n definition => cases hname
    | other => cases hname
  · exact fun hmem => ⟨_, hmem, decide_eq_true rfl⟩

namespace Registration

open Source (Token Implementation)

/-- The callback under a name. -/
def Slot.emit (slot : Slot) (name : String) : Export :=
  ⟨name ++ slot.ending, slot.kind, slot.handler⟩

/-- Under a plain name there is no other. -/
theorem Slot.eq_emit {slot : Slot} {name : String} {x : Export} (hname : isPlain name = true)
    (hending : slot.ending.toList.all Text.isPlainPart = true) (h : slot.emit? name = .ok x) :
    x = slot.emit name := by
  obtain ⟨hsymbol, hkind, hhandler⟩ := emit?_eq_ok_iff.1 h
  rw [emit, ← symbolName_of_isPlain hname hending hsymbol, ← hkind, ← hhandler]

variable {self : List Token} {s : Shape}

/-- Exports that are each slot under each name. -/
def Emits (exports : List Export) (names : List String) (slots : List Slot) : Prop :=
  ∀ x, x ∈ exports ↔ ∃ name ∈ names, ∃ slot ∈ slots, x = slot.emit name

theorem Emits.append {xs ys : List Export} {names : List String} {slots slots' : List Slot}
    (h : Emits xs names slots) (h' : Emits ys names slots') :
    Emits (xs ++ ys) names (slots ++ slots') := by
  intro x
  rw [List.mem_append, h x, h' x]
  constructor
  · rintro (⟨name, hname, slot, hslot, rfl⟩ | ⟨name, hname, slot, hslot, rfl⟩)
    · exact ⟨name, hname, slot, List.mem_append_left _ hslot, rfl⟩
    · exact ⟨name, hname, slot, List.mem_append_right _ hslot, rfl⟩
  · rintro ⟨name, hname, slot, hslot, rfl⟩
    rcases List.mem_append.1 hslot with hslot | hslot
    · exact .inl ⟨name, hname, slot, hslot, rfl⟩
    · exact .inr ⟨name, hname, slot, hslot, rfl⟩

/-- Under plain names each slot is emitted with the name and its ending. -/
theorem Emission.emits {exports : List Export} {names : List String} {slots : List Slot}
    (h : Emission exports names slots) (hplain : ∀ name ∈ names, isPlain name = true)
    (hendings : ∀ ending ∈ slots.map Slot.ending, ending.toList.all Text.isPlainPart = true) :
    Emits exports names slots := by
  have heq {name : String} {slot : Slot} {x : Export} (hname : name ∈ names) (hslot : slot ∈ slots)
      (hemit : slot.emit? name = .ok x) : x = slot.emit name :=
    slot.eq_emit (hplain name hname) (hendings _ (List.mem_map_of_mem hslot)) hemit
  intro x
  constructor
  · intro hx
    obtain ⟨name, hname, slot, hslot, hemit⟩ := h.sound x hx
    exact ⟨name, hname, slot, hslot, heq hname hslot hemit⟩
  · rintro ⟨name, hname, slot, hslot, rfl⟩
    obtain ⟨x, hx, hemit⟩ := h.complete name hname slot hslot
    rw [← heq hname hslot hemit]
    exact hx

/-! ### Names and endings -/

/-- The endings that symbols may have. -/
def endings : List String := ["_init", "_deinit", "_clear", "_add", "_remove"]

/-- No name is a name with an ending, be it another or itself. -/
def Apart (names : List String) : Prop :=
  ∀ name ∈ names, ∀ ending ∈ endings, name ++ ending ∉ names

instance (names : List String) : Decidable (Apart names) :=
  inferInstanceAs (Decidable (∀ name ∈ names, ∀ ending ∈ endings, name ++ ending ∉ names))

/-- No ending is the end of another. -/
theorem eq_of_suffix : ∀ a ∈ endings, ∀ b ∈ endings, a.toList <:+ b.toList → a = b := by
  decide

/-- What ends in two of the endings ends in one. -/
theorem ending_eq {m n a b : String} (ha : a ∈ endings) (hb : b ∈ endings) (h : m ++ a = n ++ b) :
    a = b := by
  have hlist : m.toList ++ a.toList = n.toList ++ b.toList := by
    rw [← String.toList_append, h, String.toList_append]
  have hsuffix : a.toList <:+ n.toList ++ b.toList := hlist ▸ List.suffix_append _ _
  rcases List.suffix_or_suffix_of_suffix hsuffix (List.suffix_append _ _) with h | h
  · exact eq_of_suffix a ha b hb h
  · exact (eq_of_suffix b hb a ha h).symm

/-- **A symbol tells its name and its ending,** if it has one, where names are apart. -/
theorem Apart.eq_of_append {names : List String} (h : Apart names) {m n a b : String}
    (hm : m ∈ names) (hn : n ∈ names) (ha : a ∈ "" :: endings) (hb : b ∈ "" :: endings)
    (heq : m ++ a = n ++ b) : m = n ∧ a = b := by
  rcases List.mem_cons.1 ha with rfl | ha <;> rcases List.mem_cons.1 hb with rfl | hb
  · simpa using heq
  · rw [String.append_empty] at heq
    exact absurd (heq ▸ hm) (h n hn b hb)
  · rw [String.append_empty] at heq
    exact absurd (heq ▸ hn) (h m hm a ha)
  · obtain rfl := ending_eq ha hb heq
    exact ⟨(String.append_left_inj a).1 heq, rfl⟩

/-! ### Lookups -/

/-- A library that holds exports and nothing else, where they are looked up by their symbols. -/
structure Holds (lookup : String → Option Export) (exports : List Export) : Prop where
  sound : ∀ {symbol x}, lookup symbol = some x → x ∈ exports ∧ x.symbol = symbol
  complete : ∀ x ∈ exports, (lookup x.symbol).isSome = true

/-- The first of the exports with a symbol. -/
def firstOf (exports : List Export) (symbol : String) : Option Export :=
  exports.find? (·.symbol = symbol)

/-- Any exports may be held so. -/
theorem holds_firstOf (exports : List Export) : Holds (firstOf exports) exports where
  sound {symbol x} hx := by
    have hsymbol := List.find?_some hx
    exact ⟨List.mem_of_find?_eq_some hx, of_decide_eq_true hsymbol⟩
  complete x hx := List.find?_isSome.2 ⟨x, hx, decide_eq_true rfl⟩

/-- Slots with different endings, which symbols may have. -/
structure Distinct (slots : List Slot) : Prop where
  nodup : (slots.map Slot.ending).Nodup
  known : slots.map Slot.ending ⊆ "" :: endings

section Lookup

variable {lookup : String → Option Export} {exports : List Export} {names : List String}
  {slots : List Slot} {n : String} (h : Holds lookup exports) (hemits : Emits exports names slots)
  (hslots : Distinct slots) (hapart : Apart names) (hn : n ∈ names)

include h hemits hslots hapart hn

/-- What is found for a name and an ending is a slot with the ending, under the name. -/
theorem eq_emit_of_lookup {ending : String} (hending : ending ∈ "" :: endings) {x : Export}
    (hx : lookup (n ++ ending) = some x) : ∃ slot ∈ slots, slot.ending = ending ∧ x = slot.emit n := by
  obtain ⟨hmem, hsymbol⟩ := h.sound hx
  obtain ⟨m, hm, slot, hslot, rfl⟩ := (hemits x).1 hmem
  obtain ⟨rfl, hsame⟩ := hapart.eq_of_append hm hn (hslots.known (List.mem_map_of_mem hslot))
    hending hsymbol
  exact ⟨slot, hslot, hsame, rfl⟩

/-- **Each slot is found** under each name. -/
theorem lookup_emit {slot : Slot} (hslot : slot ∈ slots) :
    lookup (n ++ slot.ending) = some (slot.emit n) := by
  have hmem : slot.emit n ∈ exports := (hemits _).2 ⟨n, hn, slot, hslot, rfl⟩
  obtain ⟨x, hx⟩ := Option.isSome_iff_exists.1 (h.complete _ hmem)
  change lookup (n ++ slot.ending) = some x at hx
  obtain ⟨slot', hslot', hending, rfl⟩ :=
    eq_emit_of_lookup h hemits hslots hapart hn (hslots.known (List.mem_map_of_mem hslot)) hx
  rw [hx, List.inj_on_of_nodup_map hslots.nodup hslot' hslot hending]

/-- **Where there is no slot nothing is found.** -/
theorem lookup_eq_none {ending : String} (hending : ending ∈ "" :: endings)
    (hnone : ending ∉ slots.map Slot.ending) : lookup (n ++ ending) = none := by
  rw [Option.eq_none_iff_forall_ne_some]
  intro x hx
  obtain ⟨slot, hslot, rfl, -⟩ := eq_emit_of_lookup h hemits hslots hapart hn hending hx
  exact hnone (List.mem_map_of_mem hslot)

end Lookup

/-! ### Registrations -/

theorem distinct_slots (s : Shape) (self : List Token) : Distinct (s.slots self) where
  nodup := show ["_init", "_deinit", ""].Nodup by decide
  known := show ["_init", "_deinit", ""] ⊆ "" :: endings by decide

theorem distinct_append (s : Shape) (self self' : List Token) (removes : Bool) :
    Distinct (s.slots self ++ groupSlots self' removes) := by
  cases removes with
  | false =>
    exact ⟨show ["_init", "_deinit", "", "_clear", "_add"].Nodup by decide,
      show ["_init", "_deinit", "", "_clear", "_add"] ⊆ "" :: endings by decide⟩
  | true =>
    exact ⟨show ["_init", "_deinit", "", "_clear", "_add", "_remove"].Nodup by decide,
      show ["_init", "_deinit", "", "_clear", "_add", "_remove"] ⊆ "" :: endings by decide⟩

namespace Expansion

variable {given : GivenNames} {i : Implementation} {e : Expansion}

/-- What a registered function exports. -/
theorem emits_function (h : ofImplementation given i = .ok e)
    (hrole : i.trait.bind Role.ofPath? = some .basic)
    (hplain : ∀ name ∈ e.declaration.names.all, isPlain name = true) :
    ∃ type, i.type? "Returns" = some type
      ∧ Emits e.exports e.declaration.names.all
        ((Shape.ofType type).slots i.selfType.tokens) := by
  obtain ⟨type, names, htype, hdeclaration, hemission⟩ := emission_function h hrole
  rw [hdeclaration] at hplain ⊢
  refine ⟨type, htype, hemission.emits hplain ?_⟩
  show ∀ ending ∈ ["_init", "_deinit", ""], ending.toList.all Text.isPlainPart = true
  decide

/-- What the groups of a registered aggregate export. -/
theorem emits_aggregate (h : ofImplementation given i = .ok e)
    (hrole : i.trait.bind Role.ofPath? = some .aggregate)
    (hplain : ∀ name ∈ e.declaration.names.all, isPlain name = true) :
    Emits e.exports e.declaration.names.all
      (groupSlots i.selfType.tokens (i.hasFunction "remove")) := by
  obtain ⟨names, hdeclaration, hemission⟩ := emission_aggregate h hrole
  rw [hdeclaration] at hplain ⊢
  refine hemission.emits hplain ?_
  cases i.hasFunction "remove" with
  | true =>
    show ∀ ending ∈ ["_clear", "_add", "_remove"], ending.toList.all Text.isPlainPart = true
    decide
  | false =>
    show ∀ ending ∈ ["_clear", "_add"], ending.toList.all Text.isPlainPart = true
    decide

end Expansion

/-- The symbols of a function under a name, as they are emitted. -/
def Shape.symbols (s : Shape) (self : List Token) (name : String) : Symbols Export where
  name := name
  aggregate := false
  init := some ((s.initSlot self).emit name)
  deinit := some ((s.deinitSlot self).emit name)
  process := some ⟨s.returns.carrier.kind, (s.valueSlot self).emit name⟩

/-- The symbols of a function with those for groups, as they are emitted. -/
def withGroups (symbols : Symbols Export) (self : List Token) (removes : Bool) : Symbols Export :=
  { symbols with
    aggregate := true
    clear := some ((clearSlot self).emit symbols.name)
    add := some ((addSlot self).emit symbols.name)
    remove := if removes then some ((removeSlot self).emit symbols.name) else none }

/-- A lookup that finds the callbacks of a function of a type under a name. -/
structure Finds (lookup : String → Option Export) (s : Shape) (type : List Token) (name : String) :
    Prop where
  init : lookup (name ++ "_init") = some ((s.initSlot type).emit name)
  deinit : lookup (name ++ "_deinit") = some ((s.deinitSlot type).emit name)
  value : lookup name = some ((s.valueSlot type).emit name)

section Resolve

variable {lookup : String → Option Export} {n : String} {tag : Tag} (h : Finds lookup s self n)
  (htag : ProcessKind.ofTag? tag = some s.returns.carrier.kind)

include h htag

/-- The function that is found is the one that was emitted. -/
theorem Finds.resolve_function : (Symbols.resolve lookup n false tag).2 = .ok (s.symbols self n) := by
  simp only [Symbols.resolve_eq, htag, Symbols.collect, h.init, h.deinit, h.value]
  rfl

/-- Without a callback that clears there is no aggregate. -/
theorem Finds.resolve_missing (hclear : lookup (n ++ "_clear") = none) :
    (Symbols.resolve lookup n true tag).2 = .error (.missingAggregate n "_clear") := by
  simp only [Symbols.resolve_eq, htag, Symbols.collect, h.init, h.deinit, h.value, hclear]
  rfl

/-- With those for groups there is one. -/
theorem Finds.resolve_withGroups {self' : List Token} {removes : Bool}
    (hclear : lookup (n ++ "_clear") = some ((clearSlot self').emit n))
    (hadd : lookup (n ++ "_add") = some ((addSlot self').emit n))
    (hremove : lookup (n ++ "_remove") =
      if removes then some ((removeSlot self').emit n) else none) :
    (Symbols.resolve lookup n true tag).2 = .ok (withGroups (s.symbols self n) self' removes) := by
  simp only [Symbols.resolve_eq, htag, Symbols.collect, h.init, h.deinit, h.value, hclear, hadd, hremove]
  rfl

end Resolve

section Found

variable {lookup : String → Option Export} {exports : List Export} {names : List String}
  {slots : List Slot} {n : String} (h : Holds lookup exports) (hapart : Apart names) (hn : n ∈ names)

include h hapart hn

/-- The callbacks of a function are found among its slots and any others. -/
theorem finds_of_emits (hemits : Emits exports names slots) (hslots : Distinct slots)
    (hsub : s.slots self ⊆ slots) : Finds lookup s self n where
  init := lookup_emit h hemits hslots hapart hn (hsub (.head _))
  deinit := lookup_emit h hemits hslots hapart hn (hsub (.tail _ (.head _)))
  value := by
    have hvalue := lookup_emit h hemits hslots hapart hn (hsub (.tail _ (.tail _ (.head _))))
    rwa [Shape.valueSlot, String.append_empty] at hvalue

/-- What is found for groups where they were registered, with or without a way to remove rows. -/
theorem lookup_groups {self' : List Token} {removes : Bool}
    (hemits : Emits exports names (s.slots self ++ groupSlots self' removes)) :
    lookup (n ++ "_clear") = some ((clearSlot self').emit n)
      ∧ lookup (n ++ "_add") = some ((addSlot self').emit n)
      ∧ lookup (n ++ "_remove") = if removes then some ((removeSlot self').emit n) else none := by
  have hslots := distinct_append s self self' removes
  have hfound {slot : Slot} (hslot : slot ∈ groupSlots self' removes) :
      lookup (n ++ slot.ending) = some (slot.emit n) :=
    lookup_emit h hemits hslots hapart hn (List.mem_append_right _ hslot)
  refine ⟨hfound (.head _), hfound (.tail _ (.head _)), ?_⟩
  cases removes with
  | true => exact hfound (.tail _ (.tail _ (.head _)))
  | false =>
    refine lookup_eq_none h hemits hslots hapart hn (by decide) ?_
    exact show "_remove" ∉ ["_init", "_deinit", "", "_clear", "_add"] by decide

end Found

/-- **What is exported is what is looked up.**  The names of a registered function are plain, and none of
them is one of them with an ending.  A library holds what is exported for it, and perhaps what is
exported for the groups of the same names.  With any tag for a return type that goes with the function's,
each of the names gives the function that was emitted under this name.  It gives an aggregate just if
groups were registered, then with the callbacks emitted under this name, and one that removes rows just if
a function `remove` is implemented. -/
theorem resolve_registered {given : GivenNames} {i : Implementation} {e : Expansion}
    (h : Expansion.ofImplementation given i = .ok e)
    (hrole : i.trait.bind Role.ofPath? = some .basic)
    (hplain : ∀ name ∈ e.declaration.names.all, isPlain name = true)
    (hapart : Apart e.declaration.names.all) :
    ∃ type, i.type? "Returns" = some type ∧
      ∀ n ∈ e.declaration.names.all, ∀ tag,
        ProcessKind.ofTag? tag = some (Shape.ofType type).returns.carrier.kind →
        let function := (Shape.ofType type).symbols i.selfType.tokens n
        (∀ lookup, Holds lookup e.exports →
          (Symbols.resolve lookup n false tag).2 = .ok function
            ∧ (Symbols.resolve lookup n true tag).2 = .error (.missingAggregate n "_clear"))
        ∧ ∀ given' i' e', Expansion.ofImplementation given' i' = .ok e' →
          i'.trait.bind Role.ofPath? = some .aggregate →
          e'.declaration.names.all = e.declaration.names.all →
          ∀ lookup, Holds lookup (e.exports ++ e'.exports) →
            (Symbols.resolve lookup n false tag).2 = .ok function
              ∧ ∃ removes, (removes = true ↔ .function "remove" ∈ i'.members)
                ∧ (Symbols.resolve lookup n true tag).2 =
                  .ok (withGroups function i'.selfType.tokens removes) := by
  obtain ⟨type, htype, hemits⟩ := Expansion.emits_function h hrole hplain
  refine ⟨type, htype, fun n hn tag htag => ⟨fun lookup hlookup => ?_, ?_⟩⟩
  · have hslots := distinct_slots (Shape.ofType type) i.selfType.tokens
    have hfinds := finds_of_emits hlookup hapart hn hemits hslots (List.Subset.refl _)
    have hclear : lookup (n ++ "_clear") = none :=
      lookup_eq_none hlookup hemits hslots hapart hn (by decide)
        (show "_clear" ∉ ["_init", "_deinit", ""] by decide)
    exact ⟨hfinds.resolve_function htag, hfinds.resolve_missing htag hclear⟩
  · intro given' i' e' h' hrole' hnames lookup hlookup
    have hgroups := Expansion.emits_aggregate h' hrole' (hnames ▸ hplain)
    rw [hnames] at hgroups
    have hall := hemits.append hgroups
    have hfinds := finds_of_emits hlookup hapart hn hall (distinct_append ..)
      (List.subset_append_left _ _)
    obtain ⟨hclear, hadd, hremove⟩ := lookup_groups hlookup hapart hn hall
    exact ⟨hfinds.resolve_function htag, _, i'.hasFunction_eq_true_iff,
      hfinds.resolve_withGroups htag hclear hadd hremove⟩

/-- Words that are collected, under a name and an alias, for groups without a way to remove rows. -/
theorem resolve_registered_collectWords :
    let given : GivenNames := ⟨some "collect_words", ["words"]⟩
    let self : Source.TypeExpr := .path false false [.mk "JoinWords" .none] [.word "JoinWords"]
    let returned : Source.TypeExpr :=
      .path false false [.mk "Option" (.angled [.type (.reference [])])] []
    let i : Implementation :=
      ⟨some ⟨false, [.mk "BasicUdf" .none]⟩, 0, self,
        [.type "Returns" returned, .function "init", .function "process"]⟩
    let i' : Implementation :=
      ⟨some ⟨false, [.mk "AggregateUdf" .none]⟩, 0, self, [.function "clear", .function "add"]⟩
    ∃ e e', Expansion.ofImplementation given i = .ok e ∧ Expansion.ofImplementation given i' = .ok e'
      ∧ ∀ n ∈ ["collect_words", "words"],
        let lookup := firstOf (e.exports ++ e'.exports)
        let function := (Shape.ofType returned).symbols [.word "JoinWords"] n
        (Symbols.resolve lookup n false .string).2 = .ok function
          ∧ (Symbols.resolve lookup n true .string).2 =
            .ok (withGroups function [.word "JoinWords"] false) := by
  intro given self returned i i'
  let names := ["collect_words", "words"]
  have hnames : ∀ j ∈ [i, i'], (Expansion.ofImplementation given j).toOption.map
      (·.declaration.names.all) = some names := by
    decide +kernel
  have haccepted (j : Implementation) (hj : j ∈ [i, i']) :
      ∃ e, Expansion.ofImplementation given j = .ok e ∧ e.declaration.names.all = names := by
    have hj := hnames j hj
    cases he : Expansion.ofImplementation given j with
    | error refusal =>
      rw [he] at hj
      cases hj
    | ok e =>
      rw [he] at hj
      exact ⟨e, rfl, Option.some.inj hj⟩
  obtain ⟨e, he, hfirst⟩ := haccepted i (by simp)
  obtain ⟨e', he', hsecond⟩ := haccepted i' (by simp)
  have hplain : ∀ name ∈ e.declaration.names.all, isPlain name = true := by
    rw [hfirst]
    decide
  have hapart : Apart e.declaration.names.all := by
    rw [hfirst]
    decide
  obtain ⟨type, htype, hall⟩ := resolve_registered he rfl hplain hapart
  obtain rfl : returned = type := Option.some.inj htype
  refine ⟨e, e', he, he', fun n hn => ?_⟩
  obtain ⟨-, hgroups⟩ := hall n (hfirst.symm ▸ hn) .string rfl
  obtain ⟨hfunction, removes, hremoves, haggregate⟩ :=
    hgroups given i' e' he' rfl (hsecond.trans hfirst.symm) _ (holds_firstOf _)
  have hremove : removes = false := by
    rw [← Bool.not_eq_true, hremoves]
    simp [i']
  exact ⟨hfunction, hremove ▸ haggregate⟩

end Registration
end Loadable
