/-
# Sums of arguments

`sum_int` and `add_all` add their arguments up from the left in 64 bits.  A partial sum that does not fit ends
in a panic; the guard of the call tells it as an error, and the server sees an error and no number.  So a row
comes to its exact sum or to an error (`SumsTo`): to an error exactly if a sum of first values does not fit,
also where those that follow would bring it back.

Nothing is kept from one row to the next, so this holds of every row of a statement, whatever came of the rows
before it (`Session.sums_are_exact`).
-/

import Loadable.Proofs.Outputs
import Loadable.Proofs.Reuse
import Mathlib.Algebra.Ring.Int.Defs
import Mathlib.Data.List.Infix

namespace Loadable

/-! ### Checked sums -/

/-- The sum in exact integers. -/
def exactSum (values : List Int64) : ℤ := (values.map Int64.toInt).sum

theorem exactSum_snoc (values : List Int64) (v : Int64) :
    exactSum (values ++ [v]) = exactSum values + v.toInt := by
  simp [exactSum]

namespace Checked

theorem sum?_snoc (values : List Int64) (v : Int64) :
    sum? (values ++ [v]) = (sum? values).bind fun n => add? n v := by
  simp [sum?, List.foldlM_append]

/-- **A checked sum** is refused exactly if a sum of first values does not fit, and else it is exact. -/
theorem sum?_eq_some_iff {values : List Int64} {n : Int64} :
    sum? values = some n
      ↔ (∀ part, part <+: values → Fits (exactSum part)) ∧ n.toInt = exactSum values := by
  induction values using List.reverseRecOn generalizing n with
  | nil =>
    constructor
    · rintro ⟨⟩
      refine ⟨fun part hpart => ?_, rfl⟩
      obtain rfl := List.prefix_nil.1 hpart
      exact fits_toInt 0
    · rintro ⟨-, hn⟩
      exact congrArg some (Int64.toInt_inj.1 hn).symm
  | append_singleton values v ih =>
    rw [sum?_snoc, Option.bind_eq_some_iff, exactSum_snoc]
    constructor
    · rintro ⟨m, hm, hn⟩
      obtain ⟨hparts, hexact⟩ := ih.1 hm
      rw [add?_eq_some_iff, hexact] at hn
      refine ⟨fun part hpart => ?_, hn⟩
      rcases List.prefix_concat_iff.1 hpart with rfl | hpart
      · rw [exactSum_snoc, ← hn]
        exact fits_toInt n
      · exact hparts part hpart
    · rintro ⟨hparts, hn⟩
      obtain ⟨m, hm⟩ := exists_toInt (hparts values (List.prefix_append values [v]))
      refine ⟨m, ih.2 ⟨fun part hpart => ?_, hm⟩, ?_⟩
      · exact hparts part (hpart.trans (List.prefix_append values [v]))
      · rw [add?_eq_some_iff, hm]
        exact hn

end Checked

/-- An output is the exact sum if every sum of first values fits, and else it is an error. -/
structure SumsTo (values : List Int64) (output : Output) : Prop where
  exact : (∀ part, part <+: values → Checked.Fits (exactSum part)) →
    ∃ n, output = .int n ∧ n.toInt = exactSum values
  refused : ∀ part, part <+: values → ¬ Checked.Fits (exactSum part) → output = .error

/-! ### The two functions -/

namespace Functions

variable {r : Routine Unit} {c : Context Unit}

/-- The output of a checked sum. -/
def sumOutput (values : List Int64) : Output := (Checked.sum? values).elim .error .int

theorem sumsTo_sumOutput (values : List Int64) : SumsTo values (sumOutput values) := by
  unfold sumOutput
  cases hsum : Checked.sum? values with
  | some n =>
    obtain ⟨hparts, hexact⟩ := Checked.sum?_eq_some_iff.1 hsum
    exact ⟨fun _ => ⟨n, rfl, hexact⟩, fun part hpart hfits => absurd (hparts part hpart) hfits⟩
  | none =>
    refine ⟨fun hparts => ?_, fun _ _ _ => rfl⟩
    obtain ⟨n, hn⟩ := Checked.exists_toInt (hparts values (List.prefix_refl values))
    rw [Checked.sum?_eq_some_iff.2 ⟨hparts, hn⟩] at hsum
    cases hsum

/-- What is made of a call: a sum that is refused ends in a panic, and a panic is an error. -/
theorem output_verdict_sum (hr : r = sumInt ∨ r = addAll) (hstate : c.hasState = true) (args : List Argument)
    (room : Option ℕ) :
    (c.verdict r args none).output room 0 = sumOutput (args.filterMap fun a => a.value.toInt?) := by
  obtain ⟨cell, hcell⟩ := Option.isSome_iff_exists.1 hstate
  rw [Context.verdict, hcell]
  rcases hr with rfl | rfl
  · dsimp only [sumInt, sumArguments, sumOutput]
    cases Checked.sum? (args.filterMap fun a => a.value.toInt?) <;> rfl
  · dsimp only [addAll, sumArguments, sumOutput]
    cases Checked.sum? (args.filterMap fun a => a.value.toInt?) <;> rfl

theorem wishes_init_sum (hr : r = sumInt ∨ r = addAll) {p : Preparation} {args : List Argument} {x : Unit}
    (h : (r.init p args).outcome = .ok x) :
    (r.init p args).state.wishes = p.wishes.map fun _ => some .int := by
  rcases hr with rfl | rfl
  · rfl
  · dsimp only [addAll] at h ⊢
    split at h
    · cases h
    case isFalse hne =>
      rw [if_neg hne]
      rfl

/-- All arguments are given as integers. -/
theorem types_sum (hr : r = sumInt ∨ r = addAll) {items : List Sample}
    (h : (c.init r (items.map Sample.place)).message = none) :
    Samples.typesOf (c.init r (items.map Sample.place)).args = items.map fun _ => .int := by
  obtain ⟨x, hx⟩ := c.ended_well r _ h
  exact Context.typesOf_init (wishes_init_sum hr hx) h

end Functions

theorem Datum.filterMap_integer? {args : List Argument} {row : List Datum}
    (h : args.map Argument.value = row.map fun d => (d.convert .int).toValue) :
    args.filterMap (fun a => a.value.toInt?) = row.filterMap integer? := by
  have hread := congrArg (List.filterMap Value.toInt?) h
  rwa [List.filterMap_map, List.filterMap_map] at hread

namespace Session

variable {s : Session Unit} {r : Routine Unit}

/-- The values of a row that is cast to integers. -/
theorem values_laidOut {row : List Datum} (hrow : row.length = s.types.length)
    (hlen : s.items.length = s.types.length) (htypes : ∀ type ∈ s.types, type = .int) :
    (s.laidOut row).map Argument.value = row.map fun d => (d.convert .int).toValue := by
  refine List.ext_getElem? fun i => ?_
  rw [List.getElem?_map, List.getElem?_map, Option.map_eq_bind]
  refine (bind_laidOut hrow hlen some i).trans ?_
  cases hd : row[i]? with
  | none => rfl
  | some d =>
    have hi : i < s.types.length := hrow ▸ (List.getElem?_eq_some_iff.1 hd).1
    rw [List.getElem?_eq_getElem hi, htypes _ (List.getElem_mem hi)]
    rfl

/-- **Sums are exact, or errors.**  Let `sum_int` or `add_all` have begun a statement, by its own `init` and with
any arguments, and let there be any operations but the end of the statement, rows that came to errors among them.
Then a row that fits comes to the exact sum of its values, each cast to an integer and those that are NULL left
out, if every sum of first values fits 64 bits; and else to an error.  The function itself does so with any
number of arguments.  A row that does not fit is refused. -/
theorem sums_are_exact (hr : r = Functions.sumInt ∨ r = Functions.addAll) {u : Session Unit}
    (hu : u.routine = r) (hsymbol : u.symbols.init.isSome = true) {items : List Sample}
    (hinit : (u.init items).result = .ok ()) {ops : List Operation} (hops : ∀ op ∈ ops, op ≠ .deinit) :
    let t := (u.init items).session.performAll ops
    ∀ row : List Datum, ∃ output, SumsTo (row.filterMap Datum.integer?) output
      ∧ (row.length = items.length → (t.process row).result = .ok output)
      ∧ (row.length ≠ items.length → ∃ e, (t.process row).result = .error e)
      ∧ ∀ (args : List Argument) (area : ResultArea),
        args.map Argument.value = row.map (fun d => (d.convert .int).toValue) →
          Output.ofReply (t.context.process t.routine args .clear area) = output := by
  intro t row
  subst hu
  obtain ⟨hmessage, hcontext, htypes⟩ := u.init_own hsymbol hinit
  rw [Functions.types_sum hr hmessage] at htypes
  have hkept : Kept (u.init items).session t := kept_performAll _ (u.initialized_init hinit) hops
  have hroutine : t.routine = u.routine := hkept.routine.trans (u.routine_performAll [.init items])
  have hstate : t.hasState = true := by
    rw [hkept.hasState, hasState, hcontext, Context.hasState_init, hmessage]
    rfl
  have hints : t.types = items.map fun _ => .int := hkept.types.trans htypes
  have hlen : t.items.length = t.types.length := hkept.length_items (fits_init hinit)
  have haccepts : t.accepts row = true ↔ row.length = items.length := by
    rw [accepts_of_kept _ hkept]
    exact u.accepts_init hinit
  have houtput : ∀ args : List Argument, args.map Argument.value = row.map (fun d => (d.convert .int).toValue) →
      ∀ room, (t.context.verdict t.routine args none).output room 0
        = Functions.sumOutput (row.filterMap Datum.integer?) := by
    intro args hargs room
    rw [hroutine, Functions.output_verdict_sum hr hstate, Datum.filterMap_integer? hargs]
  refine ⟨_, Functions.sumsTo_sumOutput _, fun hrow => ?_, fun hrow => ?_, fun args area hargs => ?_⟩
  · have hfits : row.length = t.types.length := by rw [hints, List.length_map, hrow]
    have hargs := values_laidOut hfits hlen fun type htype => by
      rw [hints] at htype
      exact List.eq_of_mem_map_const htype
    rw [t.result_process (haccepts.2 hrow)]
    exact congrArg Except.ok (houtput _ hargs _)
  · exact t.process_refused (mt haccepts.1 hrow)
  · exact (t.context.ofReply_process t.routine args 0 area).trans (houtput args hargs _)

/-- The greatest integer and one and minus one come to an error, and forty and NULL and two in the next row to
their sum. -/
theorem sums_are_exact_afterError :
    let symbols : Symbols Unit :=
      ⟨"sum_int", false, some (), some (), some ⟨.longlong, ()⟩, none, none, none⟩
    let u : Session Unit := ⟨Functions.sumInt, none, symbols, .fresh, [], [], [], false, .clear⟩
    let items : List Sample := [⟨.int none, "a", true⟩, ⟨.string none, "b", true⟩, ⟨.real none, "c", true⟩]
    let s := (u.init items).session
    let great : List Datum :=
      [.int (some 9223372036854775807), .string (some "1"), .real (some ⟨0xBFF0000000000000⟩)]
    let small : List Datum := [.string (some "40 apples"), .int none, .real (some ⟨0x4000000000000000⟩)]
    (s.process great).result = .ok .error
      ∧ ((s.performAll [.process great]).process small).result = .ok (.int 42) := by
  intro symbols u items s great small
  have hr : Functions.sumInt = Functions.sumInt ∨ Functions.sumInt = Functions.addAll := .inl rfl
  have hinit : (u.init items).result = .ok () := rfl
  have hnone : ∀ op ∈ ([] : List Operation), op ≠ .deinit := nofun
  have hone : ∀ op ∈ [Operation.process great], op ≠ .deinit := by simp
  have hgreat : great.filterMap Datum.integer? = [9223372036854775807, 1, -1] := by decide +kernel
  have hsmall : small.filterMap Datum.integer? = [40, 2] := by decide +kernel
  constructor
  · obtain ⟨output, hsums, hprocess, -⟩ := sums_are_exact hr (u := u) rfl rfl hinit hnone great
    rw [hgreat] at hsums
    have herror := hsums.refused [9223372036854775807, 1] (by decide) (by decide)
    rw [← herror]
    exact hprocess rfl
  · obtain ⟨output, hsums, hprocess, -⟩ := sums_are_exact hr (u := u) rfl rfl hinit hone small
    rw [hsmall] at hsums
    have hparts : ∀ part ∈ [40, 2].inits, Checked.Fits (exactSum part) := by decide
    obtain ⟨n, rfl, hn⟩ := hsums.exact fun part hpart => hparts part ((List.mem_inits part _).2 hpart)
    obtain rfl : n = 42 := Int64.toInt_inj.1 hn
    exact hprocess rfl

end Session
end Loadable
