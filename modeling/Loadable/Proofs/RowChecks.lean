/-
# Checks of constants and of rows

`lipsum` checks the number of words twice, by the same bounds: in `init` where it is a constant, and for each
row.  Both refuse the same numbers, and a row is refused too if a value is NULL, in place of the number or of
the seed (`Functions.process_admitted`, `Functions.process_not_admitted`).  The seed's sign is only looked at in
`init`: a negative one is refused as a constant, and a row with it comes to the text for the seed without its
sign (`Session.rows_are_checked`, `Session.negative_seed_has_text`).  All this holds for every maker of texts.
-/

import Loadable.Functions.Texts
import Loadable.Proofs.Messages
import Loadable.Proofs.Outputs
import Loadable.Proofs.Reuse

namespace Loadable

namespace Functions

/-- A number of words that a text may have. -/
def IsWordCount (n : Int64) : Prop := 0 ≤ n.toInt ∧ n.toInt ≤ maxWords

theorem countError?_eq_none_iff {n : Int64} : countError? n = none ↔ IsWordCount n := by
  unfold countError? IsWordCount
  split
  · simp only [reduceCtorEq, false_iff]
    omega
  · split
    · simp only [reduceCtorEq, false_iff]
      omega
    · simp only [true_iff]
      omega

/-- The first constant is refused as a number of words, and any other one if it is negative. -/
theorem constantError?_eq_none_iff {i : ℕ} {n : Int64} :
    constantError? i n = none ↔ if i = 0 then IsWordCount n else 0 ≤ n.toInt := by
  unfold constantError?
  split
  · exact countError?_eq_none_iff
  · split
    · simp only [reduceCtorEq, false_iff]
      omega
    · simp only [true_iff]
      omega

/-- Arguments of a row that a text is made for: there is a number of words, and no NULL for a seed. -/
def Admitted (args : List Argument) : Prop :=
  (∃ n, Argument.intAt? args 0 = some n ∧ IsWordCount n)
    ∧ (1 < args.length → (Argument.intAt? args 1).isSome = true)

variable {filler : Filler} {s : Made} {settings : Settings} {args : List Argument} {error : Option Code}

theorem process_admitted (h : Admitted args) :
    ∃ n, Argument.intAt? args 0 = some n
      ∧ ((lipsum filler).process s settings args error).outcome
        = .ok (.reference (.text (filler.textFor n (Argument.intAt? args 1)))) := by
  obtain ⟨⟨n, hn, hcount⟩, hseed⟩ := h
  have hgood : ¬ (countError? n).isSome = true := by
    rw [countError?_eq_none_iff.2 hcount]
    exact Bool.false_ne_true
  have hthere : ¬ (1 < args.length ∧ (Argument.intAt? args 1).isNone = true) := by
    rintro ⟨hlen, hnone⟩
    have hsome := hseed hlen
    rw [Option.isNone_iff_eq_none.1 hnone] at hsome
    cases hsome
  dsimp only [lipsum]
  rw [hn]
  dsimp only
  rw [if_neg hgood, if_neg hthere]
  exact ⟨n, rfl, rfl⟩

theorem process_not_admitted (h : ¬ Admitted args) :
    ((lipsum filler).process s settings args error).outcome = .err () := by
  dsimp only [lipsum]
  cases hn : Argument.intAt? args 0 with
  | none => rfl
  | some n =>
    dsimp only
    by_cases hcount : IsWordCount n
    · have hgood : ¬ (countError? n).isSome = true := by
        rw [countError?_eq_none_iff.2 hcount]
        exact Bool.false_ne_true
      have hmissing : 1 < args.length ∧ (Argument.intAt? args 1).isNone = true := by
        by_contra hthere
        refine h ⟨⟨n, hn, hcount⟩, fun hlen => ?_⟩
        simpa [hlen, Option.isSome_iff_ne_none] using hthere
      rw [if_neg hgood, if_pos hmissing]
    · have hbad : (countError? n).isSome = true := by
        rw [Option.isSome_iff_ne_none, ne_eq, countError?_eq_none_iff]
        exact hcount
      rw [if_pos hbad]

/-- All but one or two arguments are too few or too many. -/
theorem isEmpty_or_two_lt_iff :
    args.isEmpty ∨ 2 < args.length ↔ ¬ (args.length = 1 ∨ args.length = 2) := by
  rw [List.isEmpty_iff_length_eq_zero]
  omega

/-- **`init` succeeds** with one or two arguments of which no constant is refused. -/
theorem init_lipsum_iff {p : Preparation} :
    (∃ x, ((lipsum filler).init p args).outcome = .ok x)
      ↔ (args.length = 1 ∨ args.length = 2)
        ∧ ∀ i n, Argument.intAt? args i = some n → constantError? i n = none := by
  have hread (i : ℕ) (a : Argument) : a.value.toInt?.bind (constantError? i) = none
      ↔ ∀ n, a.value.toInt? = some n → constantError? i n = none := by
    cases a.value.toInt? <;> simp
  have hnone : (args.zipIdx.findSome? fun p => p.1.value.toInt?.bind (constantError? p.2)) = none
      ↔ ∀ i n, Argument.intAt? args i = some n → constantError? i n = none := by
    rw [List.findSome?_eq_none_iff]
    constructor
    · intro h i n hn
      obtain ⟨a, ha, hvalue⟩ := Option.bind_eq_some_iff.1 hn
      exact (hread i a).1 (h (a, i) (List.mem_zipIdx_iff_getElem?.2 ha)) n hvalue
    · rintro h ⟨a, i⟩ ha
      refine (hread i a).2 fun n hn => h i n ?_
      rw [Argument.intAt?, List.mem_zipIdx_iff_getElem?.1 ha]
      exact hn
  rw [← hnone]
  dsimp only [lipsum]
  by_cases hlen : args.length = 1 ∨ args.length = 2
  · rw [if_neg (isEmpty_or_two_lt_iff.not_left.2 hlen)]
    cases args.zipIdx.findSome? fun p => p.1.value.toInt?.bind (constantError? p.2) with
    | none => exact iff_of_true ⟨_, rfl⟩ ⟨hlen, rfl⟩
    | some e =>
      refine iff_of_false ?_ fun h => Option.some_ne_none e h.2
      rintro ⟨x, hx⟩
      cases hx
  · rw [if_pos (isEmpty_or_two_lt_iff.2 hlen)]
    refine iff_of_false ?_ fun h => hlen h.1
    rintro ⟨x, hx⟩
    cases hx

/-- The first constant that is refused says why `init` fails. -/
theorem outcome_init_lipsum {p : Preparation} {e : String} (hlen : args.length = 1 ∨ args.length = 2)
    (h : args.zipIdx.findSome? (fun p => p.1.value.toInt?.bind (constantError? p.2)) = some e) :
    ((lipsum filler).init p args).outcome = .err e := by
  dsimp only [lipsum]
  rw [if_neg (isEmpty_or_two_lt_iff.not_left.2 hlen), h]

/-- All arguments are given as integers. -/
theorem types_lipsum {c : Context Made} {items : List Sample}
    (h : (c.init (lipsum filler) (items.map Sample.place)).message = none) :
    Samples.typesOf (c.init (lipsum filler) (items.map Sample.place)).args = items.map fun _ => .int := by
  obtain ⟨x, hx⟩ := c.ended_well (lipsum filler) _ h
  refine Context.typesOf_init ?_ h
  generalize c.preparation (lipsum filler) (items.map Sample.place) = p at hx ⊢
  dsimp only [lipsum] at hx ⊢
  split at hx
  · cases hx
  case isFalse hlen =>
    rw [if_neg hlen]
    cases hfind : (items.map Sample.place).zipIdx.findSome? fun p =>
      p.1.value.toInt?.bind (constantError? p.2) with
    | none => rfl
    | some e =>
      rw [hfind] at hx
      cases hx

end Functions

namespace Session

open Functions

/-- A row that a text is made for: no value is NULL, and the first is a number of words. -/
def AdmittedRow (row : List Datum) : Prop :=
  (∀ d ∈ row, d.isNull = false) ∧ ∃ n, row.head?.bind Datum.integer? = some n ∧ IsWordCount n

/-- A row that is cast to integers is admitted as it is handed on. -/
theorem admitted_laidOut {s : Session Made} {row : List Datum} (hrow : row.length = s.types.length)
    (hlen : s.items.length = s.types.length) (htypes : ∀ type ∈ s.types, type = .int)
    (hshort : row.length = 1 ∨ row.length = 2) : Admitted (s.laidOut row) ↔ AdmittedRow row := by
  have hnull (d : Datum) : d.integer?.isSome = true ↔ d.isNull = false := by
    rw [← d.isNone_integer?, ← Option.not_isSome, Bool.not_eq_false']
  rw [Admitted, length_laidOut hrow hlen, intAt?_laidOut hrow hlen htypes, intAt?_laidOut hrow hlen htypes]
  rcases hshort with hone | htwo
  · obtain ⟨count, rfl⟩ := List.length_eq_one_iff.1 hone
    constructor
    · rintro ⟨⟨n, hn, hcount⟩, -⟩
      refine ⟨fun d hd => ?_, n, hn, hcount⟩
      rw [List.mem_singleton.1 hd, ← hnull]
      exact Option.isSome_iff_exists.2 ⟨n, hn⟩
    · rintro ⟨-, hcount⟩
      exact ⟨hcount, fun h => absurd h (Nat.lt_irrefl 1)⟩
  · obtain ⟨count, seed, rfl⟩ := List.length_eq_two.1 htwo
    constructor
    · rintro ⟨⟨n, hn, hcount⟩, hseed⟩
      refine ⟨fun d hd => ?_, n, hn, hcount⟩
      rw [← hnull]
      rcases List.mem_pair.1 hd with rfl | rfl
      · exact Option.isSome_iff_exists.2 ⟨n, hn⟩
      · exact hseed (Nat.lt_succ_self 1)
    · rintro ⟨hall, hcount⟩
      exact ⟨hcount, fun _ => (hnull seed).2 (hall seed (by simp))⟩

/-- A row that is admitted comes to the text for its number of words and its seed, any other to an error. -/
def RowChecked (filler : Filler) (t : Session Made) (row : List Datum) : Prop :=
  (AdmittedRow row → ∃ n, row[0]?.bind Datum.integer? = some n
      ∧ (t.process row).result
        = .ok (.bytes (Utf8.encode (filler.textFor n (row[1]?.bind Datum.integer?)))))
    ∧ (¬ AdmittedRow row → (t.process row).result = .ok .error)

/-- **Every row that fits is checked.** -/
theorem rowChecked {filler : Filler} {t : Session Made} {row : List Datum}
    (hroutine : t.routine = lipsum filler) (haccepts : t.accepts row = true) (hstate : t.hasState = true)
    (hrow : row.length = t.types.length) (hlen : t.items.length = t.types.length)
    (htypes : ∀ type ∈ t.types, type = .int) (hshort : row.length = 1 ∨ row.length = 2) :
    RowChecked filler t row := by
  obtain ⟨cell, hcell⟩ := Option.isSome_iff_exists.1 hstate
  rw [RowChecked, process_of_cell hroutine haccepts hcell, ← admitted_laidOut hrow hlen htypes hshort]
  constructor
  · intro h
    obtain ⟨n, hn, htext⟩ : ∃ n, Argument.intAt? (t.laidOut row) 0 = some n
        ∧ ((lipsum filler).process cell.state t.context.settings (t.laidOut row) none).outcome
          = .ok (.reference (.text (filler.textFor n (Argument.intAt? (t.laidOut row) 1)))) :=
      process_admitted h
    rw [intAt?_laidOut hrow hlen htypes] at hn htext
    exact ⟨n, hn, by rw [htext]; rfl⟩
  · intro h
    rw [process_not_admitted h]
    rfl

/-- `init` takes constants of which the first is a number of words and no other is negative. -/
theorem init_constants_iff {filler : Filler} {v : Session Made} (hv : v.routine = lipsum filler)
    (hnew : v.initialized = false) (hsymbol : v.symbols.init.isSome = true)
    {values : List Int64} {constants : List Sample}
    (hconstants : constants.map (·.value) = values.map fun n => .int (some n))
    (hshort : values.length = 1 ∨ values.length = 2) :
    (v.init constants).result = .ok ()
      ↔ (∃ n ∈ values.head?, IsWordCount n) ∧ ∀ seed ∈ values.tail, 0 ≤ seed.toInt := by
  have hread (i : ℕ) : Argument.intAt? (constants.map Sample.place) i = values[i]? := by
    have hi : constants[i]?.map (·.value) = values[i]?.map fun n => .int (some n) := by
      rw [← List.getElem?_map, hconstants, List.getElem?_map]
    rw [Argument.intAt?, List.getElem?_map]
    cases hvalue : values[i]? with
    | none =>
      rw [hvalue, Option.map_none, Option.map_eq_none_iff] at hi
      rw [hi]
      rfl
    | some n =>
      rw [hvalue, Option.map_some, Option.map_eq_some_iff] at hi
      obtain ⟨item, hitem, hn⟩ := hi
      rw [hitem, Option.map_some, Option.bind_some, Sample.value_place, hn]
      rfl
  have hlength : (constants.map Sample.place).length = values.length := by
    have hmap := congrArg List.length hconstants
    simpa only [List.length_map] using hmap
  rw [ok_init_iff hnew hsymbol, hv, init_lipsum_iff, hlength, and_iff_right hshort]
  simp only [hread, constantError?_eq_none_iff]
  cases values with
  | nil => simp at hshort
  | cons count seeds =>
    simp only [List.head?_cons, Option.mem_some_iff, exists_eq_left', List.tail_cons]
    constructor
    · intro h
      refine ⟨h 0 count rfl, fun seed hseed => ?_⟩
      obtain ⟨i, hi⟩ := List.mem_iff_getElem?.1 hseed
      exact h (i + 1) seed hi
    · rintro ⟨hcount, hseeds⟩ i n hn
      cases i with
      | zero => exact Option.some.inj hn ▸ hcount
      | succ i => exact hseeds n (List.mem_of_getElem? hn)

/-- **Rows are checked as constants are, but for the sign of a seed.**  Let `lipsum` have begun a statement by its
own `init`, with any arguments, and let there be any operations but the end of the statement.  Then a row that
fits comes to an error exactly if a value is NULL or its number of words, cast to an integer, is negative or too
great; and else to the text for that number and the seed without its sign.  Of integers the same ones given as
constants are refused by `init`, as numbers of words, and in `init` alone a seed is refused that is negative. -/
theorem rows_are_checked {filler : Filler} {u v : Session Made} (hu : u.routine = lipsum filler)
    (husymbol : u.symbols.init.isSome = true) {items : List Sample}
    (hinit : (u.init items).result = .ok ()) {ops : List Operation} (hops : ∀ op ∈ ops, op ≠ .deinit)
    (hv : v.routine = lipsum filler) (hvsymbol : v.symbols.init.isSome = true)
    (hnew : v.initialized = false) :
    let t := (u.init items).session.performAll ops
    (∀ row : List Datum, row.length = items.length → RowChecked filler t row)
      ∧ ∀ (values : List Int64) (constants : List Sample), values.length = items.length →
        (constants.map (·.value) = values.map fun n => .int (some n)) →
          ((v.init constants).result = .ok ()
            ↔ (t.process (values.map fun n => .int (some n))).result ≠ .ok .error
              ∧ ∀ seed ∈ values.tail, 0 ≤ seed.toInt) := by
  intro t
  obtain ⟨hmessage, hcontext, htypes⟩ := u.init_own husymbol hinit
  rw [hu] at hmessage hcontext htypes
  have hkept : Kept (u.init items).session t := kept_performAll _ (u.initialized_init hinit) hops
  have hroutine : t.routine = lipsum filler :=
    hkept.routine.trans ((u.routine_performAll [.init items]).trans hu)
  have hshort : items.length = 1 ∨ items.length = 2 := by
    obtain ⟨hlen, -⟩ := init_lipsum_iff.1 (u.context.ended_well (lipsum filler) _ hmessage)
    rwa [List.length_map] at hlen
  have hstate : t.hasState = true := by
    rw [hkept.hasState, hasState, hcontext, Context.hasState_init, hmessage]
    rfl
  have hints : t.types = items.map fun _ => .int :=
    (hkept.types.trans htypes).trans (types_lipsum hmessage)
  have hlen : t.items.length = t.types.length := hkept.length_items (fits_init hinit)
  have hrows (row : List Datum) (hrow : row.length = items.length) : RowChecked filler t row := by
    refine rowChecked hroutine ?_ hstate ?_ hlen (fun type htype => ?_) (hrow ▸ hshort)
    · rw [accepts_of_kept _ hkept]
      exact (u.accepts_init hinit).2 hrow
    · rw [hints, List.length_map, hrow]
    · exact List.eq_of_mem_map_const (hints ▸ htype)
  refine ⟨hrows, fun values constants hvalues hconstants => ?_⟩
  have hadmitted : AdmittedRow (values.map fun n => .int (some n)) ↔ ∃ n ∈ values.head?, IsWordCount n := by
    rw [AdmittedRow, and_iff_right (by simp [Datum.isNull])]
    cases values <;> rfl
  obtain ⟨hgood, hbad⟩ := hrows (values.map fun n => .int (some n)) (by rw [List.length_map, hvalues])
  rw [init_constants_iff hv hnew hvsymbol hconstants (hvalues ▸ hshort), ← hadmitted]
  refine and_congr_left fun _ => ⟨fun h => ?_, fun h => ?_⟩
  · obtain ⟨n, -, htext⟩ := hgood h
    rw [htext]
    intro hsame
    cases hsame
  · exact not_not.1 fun hnot => h (hbad hnot)

/-- A seed of minus five is refused as a constant, and a row with it has the text for five; a row without a
seed has none, nor has one with a word too many. -/
theorem rows_are_checked_withSeed :
    let filler : Filler := ⟨fun n => s!"{n} words", fun n seed => s!"{n} words by {seed}"⟩
    let symbols : Symbols Unit :=
      ⟨"lipsum", false, some (), some (), some ⟨.string, ()⟩, none, none, none⟩
    let u : Session Made := ⟨lipsum filler, none, symbols, .fresh, [], [], [], false, .clear⟩
    let items : List Sample := [⟨.int none, "n", true⟩, ⟨.int none, "seed", true⟩]
    let constants : List Sample := [⟨.int (some 1), "1", false⟩, ⟨.int (some (-5)), "-5", false⟩]
    let t := (u.init items).session.performAll [.process [.int none, .int none]]
    (t.process [.int (some 1), .int (some (-5))]).result
        = .ok (.bytes (Utf8.encode "1 words by 5"))
      ∧ (u.init constants).result ≠ .ok ()
      ∧ (t.process [.int (some 1), .int none]).result = .ok .error
      ∧ (t.process [.int (some 268435456), .int (some 5)]).result = .ok .error := by
  intro filler symbols u items constants t
  have hinit : (u.init items).result = .ok () := rfl
  have hops : ∀ op ∈ [Operation.process [.int none, .int none]], op ≠ .deinit := by simp
  have hu : u.routine = lipsum filler := rfl
  obtain ⟨hrows, hconstants⟩ := rows_are_checked hu rfl hinit hops hu rfl rfl
  refine ⟨?_, fun hok => ?_, (hrows _ rfl).2 ?_, (hrows _ rfl).2 ?_⟩
  · obtain ⟨n, hn, htext⟩ := (hrows [.int (some 1), .int (some (-5))] rfl).1
      ⟨by decide, 1, rfl, by decide, by decide⟩
    obtain rfl := Option.some.inj (show some 1 = some n from hn)
    exact htext
  · have hseed := ((hconstants [1, -5] constants rfl rfl).1 hok).2 (-5) (by simp)
    exact absurd hseed (by decide)
  · rintro ⟨hnull, -⟩
    exact absurd (hnull (.int none) (by simp)) (by decide)
  · rintro ⟨-, n, hn, -, hmax⟩
    obtain rfl := Option.some.inj (show some 268435456 = some n from hn)
    exact absurd hmax (by decide)

/-- **A negative seed is not refused for each row:** `init` refuses it as a constant, and the row with the same
values comes to the text for the seed without its sign. -/
theorem negative_seed_has_text :
    let symbols : Symbols Unit :=
      ⟨"lipsum", false, some (), some (), some ⟨.string, ()⟩, none, none, none⟩
    ∀ filler : Filler,
      let u : Session Made := ⟨lipsum filler, none, symbols, .fresh, [], [], [], false, .clear⟩
      let t := (u.init [⟨.int none, "n", true⟩, ⟨.int none, "seed", true⟩]).session
      (u.init [⟨.int (some 1), "1", false⟩, ⟨.int (some (-5)), "-5", false⟩]).result
          = .error (failedInit "lipsum" "seed must not be negative, got -5")
        ∧ (t.process [.int (some 1), .int (some (-5))]).result
          = .ok (.bytes (Utf8.encode (filler.seeded 1 5))) := by
  intro symbols filler u t
  have hrow : RowChecked filler t [.int (some 1), .int (some (-5))] :=
    rowChecked rfl rfl rfl rfl rfl (by simp [show t.types = [.int, .int] from rfl]) (.inr rfl)
  constructor
  · rw [u.init_called rfl rfl, result_entered, u.context.init_checked _ _ (Sample.typed_place _),
      Context.message_initWith,
      outcome_init_lipsum (.inr rfl) (e := "seed must not be negative, got -5") (by decide +kernel)]
    exact congrArg (Except.error ∘ failedInit "lipsum") (received_of_short (by decide) (by decide))
  · obtain ⟨n, hn, htext⟩ := hrow.1 ⟨by decide, 1, rfl, by decide, by decide⟩
    obtain rfl := Option.some.inj (show some 1 = some n from hn)
    exact htext

end Session
end Loadable
