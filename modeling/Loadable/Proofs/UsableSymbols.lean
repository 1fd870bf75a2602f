/-
# Which exports make a function

A function is resolved by one lookup after the other, each of which may find nothing; what is found is taken
for a callback of the kind that goes with its name, and in the end all is checked.  The kinds always fit, so
a lookup for a place is a lookup and no more (`Symbols.slot_eq`, `Symbols.value_eq`).  Hence a closed form,
`Symbols.resolve_eq`: all names are asked for, whatever is missing, and the check alone decides.

What it decides is said by `Accepts` and `Refuses`, about the return type and the set of exported symbols.
The main statement is `Symbols.resolve_exact`: just these are accepted and refused, and a function that is
accepted has in each place what was exported for it.
-/

import Loadable.Symbols
import Mathlib.Data.List.Nodup
import Mathlib.Data.Set.Defs

namespace Loadable

/-- Values can be of the type. -/
def Tag.IsReturnType (t : Tag) : Prop := t = .real ∨ t = .int ∨ t = .string ∨ t = .decimal

/-- Just the types that values can be of have a kind of callback that produces them. -/
theorem Tag.isReturnType_iff {t : Tag} :
    t.IsReturnType ↔ ∃ kind, ProcessKind.ofTag? t = some kind := by
  cases t <;> simp [IsReturnType, ProcessKind.ofTag?]

namespace Callback

variable {α : Type}

/-- What was taken for a callback of a kind is one of that kind. -/
theorem bind_restore (kind : CallbackKind) (found : Option α) :
    (restore kind found).bind (·.addressAs? kind) = found := by
  cases found with
  | none => rfl
  | some a => exact if_pos rfl

/-- What was taken for a callback that produces values is one. -/
theorem toProcess_ofKind (kind : ProcessKind) (a : α) :
    (⟨kind.toKind, a⟩ : Callback α).toProcess = .ok ⟨kind, a⟩ := by
  rw [toProcess, toProcess?, ProcessKind.toProcess?_toKind]
  rfl

end Callback

/-- What the exports must have for a function to be accepted. -/
structure Accepts (exported : Set String) (name : String) (aggregate : Bool) (returns : Tag) :
    Prop where
  returns : returns.IsReturnType
  value : name ∈ exported
  clear : aggregate = true → name ++ "_clear" ∈ exported
  add : aggregate = true → name ++ "_add" ∈ exported

/-- Why a function is refused: the first that is missing of what it must have. -/
inductive Refuses (exported : Set String) (name : String) (aggregate : Bool) (returns : Tag) :
    SymbolError → Prop
  | returns (h : ¬ returns.IsReturnType) :
    Refuses exported name aggregate returns (.invalidReturnType returns)
  | value (h : returns.IsReturnType) (hvalue : name ∉ exported) :
    Refuses exported name aggregate returns (.missingProcess name)
  | clear (h : returns.IsReturnType) (hvalue : name ∈ exported) (haggregate : aggregate = true)
    (hclear : name ++ "_clear" ∉ exported) :
    Refuses exported name aggregate returns (.missingAggregate name "_clear")
  | add (h : returns.IsReturnType) (hvalue : name ∈ exported) (haggregate : aggregate = true)
    (hclear : name ++ "_clear" ∈ exported) (hadd : name ++ "_add" ∉ exported) :
    Refuses exported name aggregate returns (.missingAggregate name "_add")

section Verdict

variable {exported : Set String} {name : String} {aggregate : Bool} {returns : Tag}
  {e e' : SymbolError}

theorem Refuses.not_accepts (h : Refuses exported name aggregate returns e) :
    ¬ Accepts exported name aggregate returns := by
  intro haccepts
  cases h with
  | returns h => exact h haccepts.returns
  | value h hvalue => exact hvalue haccepts.value
  | clear h hvalue haggregate hclear => exact hclear (haccepts.clear haggregate)
  | add h hvalue haggregate hclear hadd => exact hadd (haccepts.add haggregate)

/-- A refusal has one reason. -/
theorem Refuses.unique (h : Refuses exported name aggregate returns e)
    (h' : Refuses exported name aggregate returns e') : e = e' := by
  cases h <;> cases h' <;> first | rfl | contradiction

end Verdict

namespace Symbols

variable {α : Type}

/-- The symbols that a lookup finds. -/
def exported (lookup : String → Option α) : Set String := {symbol | (lookup symbol).isSome = true}

/-- A place for callbacks of a kind is filled just if there is an export for it, and what stands there, its
kind forgotten, is where the export was found. -/
structure Filled (lookup : String → Option α) (kind : CallbackKind) (symbol : String)
    (place : Option α) : Prop where
  isSome_iff : place.isSome = true ↔ symbol ∈ exported lookup
  erase : place.map (fun a => (⟨kind, a⟩ : Callback α).erase) = lookup symbol

/-- In each place of a function stands what was exported for it. -/
structure Gathered (lookup : String → Option α) (name : String) (aggregate : Bool) (returns : Tag)
    (s : Symbols α) : Prop where
  named : s.name = name
  created : s.aggregate = aggregate
  init : Filled lookup .init (name ++ "_init") s.init
  deinit : Filled lookup .deinit (name ++ "_deinit") s.deinit
  value : ∃ p, s.process = some p ∧ ProcessKind.ofTag? returns = some p.kind
    ∧ some p.toCallback.erase = lookup name
  grouped : aggregate = true → Filled lookup .clear (name ++ "_clear") s.clear
    ∧ Filled lookup .add (name ++ "_add") s.add ∧ Filled lookup .add (name ++ "_remove") s.remove
  ungrouped : aggregate = false → s.clear = none ∧ s.add = none ∧ s.remove = none

/-- The names that are asked for if the return type is one, in order. -/
def lookups (name : String) (aggregate : Bool) : List String :=
  [name, name ++ "_init", name ++ "_deinit"]
    ++ if aggregate then [name ++ "_clear", name ++ "_add", name ++ "_remove"] else []

/-- No name is asked for twice. -/
theorem nodup_lookups (name : String) (aggregate : Bool) : (lookups name aggregate).Nodup := by
  have hinj : Function.Injective (name ++ ·) := fun _ _ h => (String.append_right_inj name).1 h
  have heq : lookups name aggregate
      = (["", "_init", "_deinit"]
          ++ if aggregate then ["_clear", "_add", "_remove"] else []).map (name ++ ·) := by
    cases aggregate <;> simp [lookups]
  rw [heq]
  refine List.Nodup.map hinj ?_
  cases aggregate <;> decide

section Search

variable (lookup : String → Option α) (name : String) (aggregate : Bool)

/-- What is exported for a function with values of a kind. -/
def collect (kind : ProcessKind) : Symbols α :=
  { name, aggregate, init := lookup (name ++ "_init"), deinit := lookup (name ++ "_deinit")
    process := (lookup name).map (⟨kind, ·⟩)
    clear := if aggregate then lookup (name ++ "_clear") else none
    add := if aggregate then lookup (name ++ "_add") else none
    remove := if aggregate then lookup (name ++ "_remove") else none }

/-- A place is filled with what is exported. -/
theorem slot_eq (kind : CallbackKind) (symbol : String) :
    slot lookup kind symbol = ask lookup symbol := by
  simp only [slot, find, Callback.bind_restore, bind_assoc, pure_bind, bind_pure]

/-- What produces values is what is exported, and no error comes of its kind. -/
theorem value_eq (kind : ProcessKind) (symbol : String) :
    value lookup kind symbol = Option.map (⟨kind, ·⟩) <$> ask lookup symbol := by
  simp only [value, find, bind_assoc, pure_bind, map_eq_pure_bind]
  refine bind_congr fun found => ?_
  cases found with
  | none => rfl
  | some a =>
    simp only [Callback.restore, Option.map_some, Callback.toProcess_ofKind]
    rfl

/-- A check gives what passes it, or its error, and asks for nothing. -/
theorem run_check (check : Except SymbolError Unit) (s : Symbols α) (asked : List String) :
    (do check; return s : Search (Symbols α)).run.run asked = (check.map fun _ => s, asked) := by
  cases check <;> rfl

/-- All names are asked for, and the check of what was found decides. -/
theorem run_search {returns : Tag} {kind : ProcessKind}
    (hkind : ProcessKind.ofTag? returns = some kind) :
    (search lookup name aggregate returns).run.run []
      = ((collect lookup name aggregate kind).validate.map
            fun _ => collect lookup name aggregate kind,
          lookups name aggregate) := by
  simp only [search, hkind, slot_eq, value_eq]
  cases aggregate with
  | false => exact run_check (collect lookup name false kind).validate _ (lookups name false)
  | true => exact run_check (collect lookup name true kind).validate _ (lookups name true)

/-- **A function is resolved** by asking for all of its names and checking what is found. -/
theorem resolve_eq (returns : Tag) :
    resolve lookup name aggregate returns
      = match ProcessKind.ofTag? returns with
        | none => ([], .error (.invalidReturnType returns))
        | some kind =>
          (lookups name aggregate,
            (collect lookup name aggregate kind).validate.map
              fun _ => collect lookup name aggregate kind) := by
  cases hkind : ProcessKind.ofTag? returns with
  | none =>
    simp only [resolve, search, hkind]
    rfl
  | some kind => exact congrArg Prod.swap (run_search lookup name aggregate hkind)

/-- What the check of what was found says. -/
theorem validate_collect (kind : ProcessKind) :
    (collect lookup name aggregate kind).validate
      = if (lookup name).isNone then .error (.missingProcess name)
        else if aggregate then
          if (lookup (name ++ "_clear")).isNone then .error (.missingAggregate name "_clear")
          else if (lookup (name ++ "_add")).isNone then .error (.missingAggregate name "_add")
          else .ok ()
        else .ok () := by
  cases aggregate <;> simp [validate, collect]

theorem filled (kind : CallbackKind) (symbol : String) :
    Filled lookup kind symbol (lookup symbol) where
  isSome_iff := Iff.rfl
  erase := congrFun Option.map_id _

/-- What is found is in its place. -/
theorem gathered_collect {returns : Tag} {kind : ProcessKind}
    (hkind : ProcessKind.ofTag? returns = some kind) (hvalue : (lookup name).isSome = true) :
    (collect lookup name aggregate kind).Gathered lookup name aggregate returns where
  named := rfl
  created := rfl
  init := filled lookup .init _
  deinit := filled lookup .deinit _
  value := by
    obtain ⟨a, ha⟩ := Option.isSome_iff_exists.1 hvalue
    exact ⟨⟨kind, a⟩, by rw [collect, ha, Option.map_some], hkind, ha.symm⟩
  grouped := by
    rintro rfl
    exact ⟨filled lookup .clear _, filled lookup .add _, filled lookup .add _⟩
  ungrouped := by
    rintro rfl
    exact ⟨rfl, rfl, rfl⟩

/-- **A resolution ends in one of two ways:** with the function that is exported, or with the reason why
there is none. -/
theorem resolve_cases (returns : Tag) :
    (Accepts (exported lookup) name aggregate returns
        ∧ ∃ s, (resolve lookup name aggregate returns).2 = .ok s
          ∧ s.Gathered lookup name aggregate returns ∧ s.validate = .ok ())
      ∨ ∃ e, Refuses (exported lookup) name aggregate returns e
        ∧ (resolve lookup name aggregate returns).2 = .error e := by
  have hmissing {symbol : String} (h : (lookup symbol).isNone = true) : symbol ∉ exported lookup :=
    Option.not_isSome_iff_eq_none.2 (Option.isNone_iff_eq_none.1 h)
  have hpresent {symbol : String} (h : ¬ (lookup symbol).isNone = true) :
      symbol ∈ exported lookup :=
    Option.isSome_iff_ne_none.2 fun hnone => h (Option.isNone_iff_eq_none.2 hnone)
  cases hkind : ProcessKind.ofTag? returns with
  | none =>
    have hreturns : ¬ returns.IsReturnType := by simp [Tag.isReturnType_iff, hkind]
    exact .inr ⟨_, .returns hreturns, by rw [resolve_eq, hkind]⟩
  | some kind =>
    have hreturns : returns.IsReturnType := Tag.isReturnType_iff.2 ⟨kind, hkind⟩
    have hresult : (resolve lookup name aggregate returns).2
        = (collect lookup name aggregate kind).validate.map
            fun _ => collect lookup name aggregate kind := by
      rw [resolve_eq, hkind]
    have hcheck := validate_collect lookup name aggregate kind
    rw [hresult, hcheck]
    -- the check goes through what is needed in the order of the reasons to refuse
    split_ifs at hcheck ⊢ with hvalue haggregate hclear hadd
    · exact .inr ⟨_, .value hreturns (hmissing hvalue), rfl⟩
    · exact .inr ⟨_, .clear hreturns (hpresent hvalue) haggregate (hmissing hclear), rfl⟩
    · exact .inr ⟨_, .add hreturns (hpresent hvalue) haggregate (hpresent hclear) (hmissing hadd), rfl⟩
    · exact .inl ⟨⟨hreturns, hpresent hvalue, fun _ => hpresent hclear, fun _ => hpresent hadd⟩, _,
        rfl, gathered_collect lookup name aggregate hkind (hpresent hvalue), hcheck⟩
    · exact .inl ⟨⟨hreturns, hpresent hvalue, (absurd · haggregate), (absurd · haggregate)⟩, _,
        rfl, gathered_collect lookup name aggregate hkind (hpresent hvalue), hcheck⟩

/-- A function is refused for the reason that there is. -/
theorem resolve_eq_error_iff (returns : Tag) (e : SymbolError) :
    (resolve lookup name aggregate returns).2 = .error e
      ↔ Refuses (exported lookup) name aggregate returns e := by
  rcases resolve_cases lookup name aggregate returns with ⟨haccepts, s, hs, -⟩ | ⟨e', hrefuses, he'⟩
  · refine iff_of_false (fun he => ?_) fun h => h.not_accepts haccepts
    exact nomatch hs.symm.trans he
  · refine ⟨fun he => ?_, fun h => ?_⟩
    · exact Except.error.inj (he'.symm.trans he) ▸ hrefuses
    · exact h.unique hrefuses ▸ he'

/-- A function that is resolved was accepted, and is what was exported. -/
theorem of_resolve {returns : Tag} {s : Symbols α}
    (hs : (resolve lookup name aggregate returns).2 = .ok s) :
    Accepts (exported lookup) name aggregate returns
      ∧ s.Gathered lookup name aggregate returns ∧ s.validate = .ok () := by
  rcases resolve_cases lookup name aggregate returns with ⟨haccepts, s', hs', hgathered⟩ | ⟨e, -, he⟩
  · obtain rfl : s' = s := Except.ok.inj (hs'.symm.trans hs)
    exact ⟨haccepts, hgathered⟩
  · exact nomatch hs.symm.trans he

/-- Without a return type nothing is asked for. -/
theorem asked_of_not_returns {returns : Tag} (h : ¬ returns.IsReturnType) :
    (resolve lookup name aggregate returns).1 = [] := by
  rw [resolve_eq]
  cases hkind : ProcessKind.ofTag? returns with
  | none => rfl
  | some kind => exact absurd (Tag.isReturnType_iff.2 ⟨kind, hkind⟩) h

/-- With one all names are asked for, whatever is missing. -/
theorem asked_of_returns {returns : Tag} (h : returns.IsReturnType) :
    (resolve lookup name aggregate returns).1 = lookups name aggregate := by
  obtain ⟨kind, hkind⟩ := Tag.isReturnType_iff.1 h
  rw [resolve_eq, hkind]

/-- **Just the usable sets of symbols are resolved.**  For every name, kind of function and return type, and
whatever a library exports: a function comes of it exactly if it is accepted, and then each of its places
holds what was exported for it, nothing stands in the places for groups unless it is an aggregate, and the
check passes.  Otherwise it is refused with the first reason there is, and two of the errors never come.
All names are asked for once and in order, whatever is missing, but none without a return type. -/
theorem resolve_exact (returns : Tag) :
    let asked := (resolve lookup name aggregate returns).1
    let result := (resolve lookup name aggregate returns).2
    ((∃ s, result = .ok s) ↔ Accepts (exported lookup) name aggregate returns)
      ∧ (∀ s, result = .ok s →
          s.Gathered lookup name aggregate returns ∧ s.validate = .ok ())
      ∧ (∀ e, result = .error e ↔ Refuses (exported lookup) name aggregate returns e)
      ∧ (∀ n suffix kind, result ≠ .error (.unexpectedAggregate n suffix)
          ∧ result ≠ .error (.notAProcess kind))
      ∧ (¬ returns.IsReturnType → asked = [])
      ∧ (returns.IsReturnType → asked = lookups name aggregate ∧ asked.Nodup) := by
  intro asked result
  have herror (e : SymbolError) := resolve_eq_error_iff lookup name aggregate returns e
  refine ⟨⟨?_, fun haccepts => ?_⟩, fun s hs => ?_, herror, fun n suffix kind => ⟨?_, ?_⟩, ?_, ?_⟩
  · rintro ⟨s, hs⟩
    exact (of_resolve lookup name aggregate hs).1
  · rcases resolve_cases lookup name aggregate returns with ⟨-, s, hs, -⟩ | ⟨e, hrefuses, -⟩
    · exact ⟨s, hs⟩
    · exact absurd haccepts hrefuses.not_accepts
  · exact (of_resolve lookup name aggregate hs).2
  · exact fun h => nomatch (herror _).1 h
  · exact fun h => nomatch (herror _).1 h
  · exact asked_of_not_returns lookup name aggregate
  · intro hreturns
    have hall : asked = lookups name aggregate := asked_of_returns lookup name aggregate hreturns
    exact ⟨hall, hall ▸ nodup_lookups name aggregate⟩

end Search

end Symbols
end Loadable
