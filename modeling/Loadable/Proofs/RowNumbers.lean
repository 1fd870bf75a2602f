/-
# Numbers of rows

`udf_sequence` counts the rows, and adds the row's offset to the count.  The count is written before the offset
is added, and stays where that sum does not fit and the call ends in a panic.  So after any rows the count is
their number (`Session.count_ofRows`), whatever they came to, and a row comes to its own number and its offset,
or to an error (`Session.rows_are_numbered`).
-/

import Loadable.Functions.Sequence
import Loadable.Proofs.RowIndependence
import Loadable.Proofs.WindowFrames

namespace Loadable

/-- A count of fewer than `2 ^ 63` has a next one. -/
theorem Checked.fits_succ {last : Int64} {n : ℕ} (h : last.toInt = n) (hn : n + 1 < 2 ^ 63) :
    Fits (last.toInt + 1) := by
  rw [h]
  constructor <;> simp only [leastInt, greatestInt] <;> omega

/-! ### One call -/

namespace Functions

/-- A call counts the row first, and then adds the offset. -/
theorem process_udfSequence {s : Sequence} (h : Checked.Fits (s.last.toInt + 1)) (settings : Settings)
    (args : List Argument) (error : Option Code) :
    ∃ last : Int64, last.toInt = s.last.toInt + 1
      ∧ udfSequence.process s settings args error
        = ⟨⟨last⟩, Checked.orPanic Checked.addOverflow
          (Checked.add? last ((Argument.intAt? args 0).getD 0)), []⟩ := by
  obtain ⟨last, hlast, hexact⟩ := Checked.exists_add? (b := 1) h
  refine ⟨last, hexact, ?_⟩
  dsimp only [udfSequence]
  rw [hlast]

/-- The count begins with zero. -/
theorem init_udfSequence {p : Preparation} {args : List Argument} {s : Sequence}
    (h : (udfSequence.init p args).outcome = .ok s) : args.length ≤ 1 ∧ s = ⟨0⟩ := by
  dsimp only [udfSequence] at h
  split at h
  · cases h
  case isFalse hlen =>
    cases h
    exact ⟨not_lt.1 hlen, rfl⟩

/-- The offset, if there is one, is given as an integer. -/
theorem types_udfSequence {c : Context Sequence} {args : List Argument}
    (h : (c.init udfSequence args).message = none) :
    Samples.typesOf (c.init udfSequence args).args = args.map fun _ => .int := by
  obtain ⟨s, hs⟩ := c.ended_well udfSequence args h
  obtain ⟨hlen, -⟩ := init_udfSequence hs
  rw [Context.args_init h]
  match args, hlen with
  | [], _ => rfl
  | [a], _ => rfl

end Functions

namespace Session

open Functions (Sequence udfSequence firstWhole)

variable {s : Session Sequence}

/-- The offset of a row: its first value cast to an integer, and zero for NULL and where there is none. -/
theorem offset_laidOut {row : List Datum} (hrow : row.length = s.types.length)
    (hlen : s.items.length = s.types.length) (htypes : ∀ type ∈ s.types, type = .int) :
    ((Argument.intAt? (s.laidOut row) 0).getD 0).toInt = firstWhole row := by
  cases htype : s.types with
  | nil =>
    obtain rfl := List.length_eq_zero_iff.1 (hrow.trans (congrArg List.length htype))
    have hnone : s.laidOut [] = [] := List.length_eq_zero_iff.1 (length_laidOut hrow hlen)
    rw [hnone]
    rfl
  | cons type types =>
    refine firstWhole_laidOut hrow hlen ?_
    rw [htype, List.head?_cons, htypes type (by simp [htype])]

/-- **One row** is counted, whatever it comes to; and it comes to the count and its offset, or to an error. -/
theorem count_process (hroutine : s.routine = udfSequence) {row : List Datum} (hrow : s.accepts row = true)
    {last : Int64} {stash : Option Bytes} (hcell : s.context.cell = some ⟨⟨last⟩, stash⟩)
    (hmore : Checked.Fits (last.toInt + 1)) :
    ∃ next : Int64, next.toInt = last.toInt + 1
      ∧ (∃ stash', (s.process row).session.context.cell = some ⟨⟨next⟩, stash'⟩)
      ∧ (s.process row).result = .ok
        ((Checked.add? next ((Argument.intAt? (s.laidOut row) 0).getD 0)).elim .error .int) := by
  obtain ⟨next, hnext, hrun⟩ := Functions.process_udfSequence (s := ⟨last⟩) hmore s.context.settings
    (s.laidOut row) none
  obtain ⟨stash', hafter⟩ := cell_process hroutine hrow hcell
  have hresult := process_of_cell hroutine hrow hcell
  rw [hrun] at hafter hresult
  refine ⟨next, hnext, ⟨stash', hafter⟩, hresult.trans ?_⟩
  cases Checked.add? next ((Argument.intAt? (s.laidOut row) 0).getD 0) <;> rfl

/-- **After any rows** the count is the number of those that fitted, whatever they came to. -/
theorem count_ofRows (hroutine : s.routine = udfSequence) (hinit : s.initialized = true)
    {stash : Option Bytes} (hcell : s.context.cell = some ⟨⟨0⟩, stash⟩) {rows : List (List Datum)}
    (hmany : rows.countP s.accepts < 2 ^ 63) :
    ∃ last stash', (s.performAll (Operation.ofRows rows)).context.cell = some ⟨⟨last⟩, stash'⟩
      ∧ last.toInt = rows.countP s.accepts := by
  induction rows using List.reverseRecOn with
  | nil => exact ⟨0, stash, hcell, rfl⟩
  | append_singleton rows row ih =>
    rw [List.countP_append] at hmany
    obtain ⟨last, stash', hlast, hcount⟩ := ih (Nat.lt_of_le_of_lt (Nat.le_add_right _ _) hmany)
    have hkept : Kept s (s.performAll (Operation.ofRows rows)) :=
      kept_performAll s hinit fun _ => Operation.ne_deinit_of_mem_ofRows
    have hsnoc : s.performAll (Operation.ofRows (rows ++ [row]))
        = ((s.performAll (Operation.ofRows rows)).process row).session := by
      rw [Operation.ofRows, List.map_append]
      exact performAll_snoc s _ _
    rw [hsnoc, List.countP_append]
    generalize s.performAll (Operation.ofRows rows) = t at hlast hkept ⊢
    have hsame : t.accepts row = s.accepts row := congrFun (accepts_of_kept s hkept) row
    by_cases hrow : s.accepts row = true
    · have hone : [row].countP s.accepts = 1 := by simp [hrow]
      rw [hone] at hmany ⊢
      obtain ⟨next, hnext, ⟨stash'', hafter⟩, -⟩ :=
        count_process (hkept.routine.trans hroutine) (hsame.trans hrow) hlast (Checked.fits_succ hcount hmany)
      refine ⟨next, stash'', hafter, ?_⟩
      rw [hnext, hcount]
      rfl
    · have hnone : [row].countP s.accepts = 0 := by simp [hrow]
      obtain ⟨m, hm⟩ := t.onRow_of_not_accepts (hsame.trans (Bool.eq_false_iff.2 hrow)) fun t => t.value 0
      rw [process, hm, hnone]
      exact ⟨last, stash', hlast, hcount⟩

/-- **Rows are numbered.**  Let `udf_sequence` have begun a statement by its own `init`, and let there be any
rows; those that do not fit are refused, and are not counted.  Then a further row that fits comes to its number
among those that do and its offset, if 64 bits hold their sum, and else to an error; whatever the rows before it
came to, as long as there are fewer than `2 ^ 63`.  The offset is the first value cast to an integer, and zero for
NULL and where there is none. -/
theorem rows_are_numbered {u : Session Sequence} (hu : u.routine = udfSequence)
    (hsymbol : u.symbols.init.isSome = true) {items : List Sample} (hinit : (u.init items).result = .ok ())
    {rows : List (List Datum)} (hmany : rows.countP (·.length = items.length) + 1 < 2 ^ 63) :
    let t := (u.init items).session.performAll (Operation.ofRows rows)
    ∀ row : List Datum,
      (row.length = items.length →
        let number : ℤ := rows.countP (·.length = items.length) + 1
        (Checked.Fits (number + firstWhole row) →
            ∃ n, (t.process row).result = .ok (.int n) ∧ n.toInt = number + firstWhole row)
          ∧ (¬ Checked.Fits (number + firstWhole row) → (t.process row).result = .ok .error))
      ∧ (row.length ≠ items.length → ∃ e, (t.process row).result = .error e) := by
  intro t row
  obtain ⟨hmessage, hcontext, htypes⟩ := u.init_own hsymbol hinit
  rw [hu] at hmessage hcontext htypes
  have hbegun := u.initialized_init hinit
  have hroutine : (u.init items).session.routine = udfSequence :=
    (u.routine_performAll [.init items]).trans hu
  have hkept : Kept (u.init items).session t :=
    kept_performAll _ hbegun fun _ => Operation.ne_deinit_of_mem_ofRows
  have haccepts : t.accepts row = true ↔ row.length = items.length := by
    rw [accepts_of_kept _ hkept]
    exact u.accepts_init hinit
  refine ⟨fun hrow => ?_, fun hrow => t.process_refused (mt haccepts.1 hrow)⟩
  intro number
  have hstart : (u.init items).session.context.cell = some ⟨⟨0⟩, none⟩ := by
    obtain ⟨x, hx, hcell⟩ := u.context.init_made udfSequence _ hmessage
    rw [hcontext, hcell, (Functions.init_udfSequence hx).2]
  have hcounted : rows.countP (u.init items).session.accepts = rows.countP (·.length = items.length) :=
    List.countP_congr fun row _ => by simpa using u.accepts_init hinit
  obtain ⟨last, stash, hlast, hcount⟩ :=
    count_ofRows hroutine hbegun hstart (by rw [hcounted]; exact Nat.lt_of_succ_lt hmany)
  rw [hcounted] at hcount
  obtain ⟨next, hnext, -, hresult⟩ := count_process (hkept.routine.trans hroutine) (haccepts.2 hrow) hlast
    (Checked.fits_succ hcount hmany)
  have hnumber : next.toInt = number := hnext.trans (congrArg (· + 1) hcount)
  have hints : t.types = items.map fun _ => .int := by
    rw [hkept.types, htypes, Functions.types_udfSequence hmessage, List.map_map]
    rfl
  have hoffset := offset_laidOut (hrow.trans (by rw [hints, List.length_map]))
    (hkept.length_items (fits_init hinit)) fun type htype => List.eq_of_mem_map_const (hints ▸ htype)
  rw [← hnumber, ← hoffset, hresult]
  constructor
  · intro hfits
    obtain ⟨n, hn, hexact⟩ := Checked.exists_add? hfits
    exact ⟨n, by rw [hn]; rfl, hexact⟩
  · intro hfits
    rw [Checked.add?_eq_none_iff.2 hfits]
    rfl

/-- The greatest offset comes to an error, and the row after it and one that is refused to two and its offset. -/
theorem rows_are_numbered_afterError :
    let symbols : Symbols Unit :=
      ⟨"udf_sequence", false, some (), some (), some ⟨.longlong, ()⟩, none, none, none⟩
    let u : Session Sequence := ⟨udfSequence, none, symbols, .fresh, [], [], [], false, .clear⟩
    let items : List Sample := [⟨.int none, "offset", true⟩]
    let s := (u.init items).session
    let great : List Datum := [.int (some 9223372036854775807)]
    (s.process great).result = .ok .error
      ∧ ((s.performAll (Operation.ofRows [great, []])).process [.string (some "40")]).result
        = .ok (.int 42) := by
  intro symbols u items s great
  have hinit : (u.init items).result = .ok () := rfl
  have hnone : ([] : List (List Datum)).countP (·.length = items.length) + 1 < 2 ^ 63 := by decide
  have htwo : [great, []].countP (·.length = items.length) + 1 < 2 ^ 63 := by decide
  have hoffset : firstWhole [.string (some "40")] = 40 := by decide +kernel
  obtain ⟨hfirst, -⟩ := rows_are_numbered (u := u) rfl rfl hinit hnone great
  obtain ⟨hsecond, -⟩ := rows_are_numbered (u := u) rfl rfl hinit htwo [.string (some "40")]
  refine ⟨(hfirst rfl).2 (by decide +kernel), ?_⟩
  obtain ⟨n, hresult, hn⟩ := (hsecond rfl).1 (by decide +kernel)
  rw [hoffset] at hn
  obtain rfl : n = 42 := Int64.toInt_inj.1 hn
  exact hresult

end Session
end Loadable
