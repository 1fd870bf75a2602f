/-
# Rows are independent

Between the rows of a statement much is left behind: a text that a function made, what the server's
buffer and the stash hold, the arguments of the last row, the settings.  All of it is overwritten before
it is read, or not read at all (`Routine.Undisturbed`), also where the last row came to an error or ended
in a panic.  So a row gives the output that it would give as the first of its statement
(`Session.rows_are_independent`).
-/

import Loadable.Proofs.AskedBetween

namespace Loadable

namespace Operation

/-- Rows that are asked for one after the other. -/
def ofRows (rows : List (List Datum)) : List Operation := rows.map .process

theorem ne_deinit_of_mem_ofRows {rows : List (List Datum)} {op : Operation} (h : op ∈ ofRows rows) :
    op ≠ .deinit := by
  obtain ⟨row, -, rfl⟩ := List.mem_map.1 h
  nofun

end Operation

namespace Session

variable {σ : Type} {s t : Session σ} {R : σ → σ → Prop}

/-- A row leaves the context as good as it was. -/
theorem alike_process (hr : t.routine.Undisturbed R) {c : Context σ} (h : c.Alike R t.context)
    (row : List Datum) : c.Alike R (t.process row).session.context := by
  by_cases hrow : t.accepts row = true
  · rw [process, onRow_of_accepts t hrow]
    exact h.asked hr.process _ _
  · obtain ⟨m, hm⟩ := t.onRow_of_not_accepts (Bool.eq_false_iff.2 hrow) fun t => t.value 0
    rw [process, hm]
    exact h

/-- So do any number of rows. -/
theorem alike_ofRows (hr : t.routine.Undisturbed R) {c : Context σ} (h : c.Alike R t.context)
    (rows : List (List Datum)) : c.Alike R (t.performAll (Operation.ofRows rows)).context := by
  induction rows generalizing t with
  | nil => exact h
  | cons row rows ih =>
    have hroutine : (t.perform (.process row)).routine = t.routine :=
      t.routine_performAll [.process row]
    exact ih (hroutine ▸ hr) (alike_process hr h row)

/-- **A row** comes to the same within one statement, in contexts that are alike and with as much room in
the server's buffer. -/
theorem Kept.result_process (h : Kept s t) (hroom : t.area.room = s.area.room)
    (hlen : s.items.length = s.types.length) (hr : s.routine.Respects R)
    (hcontext : s.context.Alike R t.context) (row : List Datum) :
    (t.process row).result = (s.process row).result := by
  by_cases hrow : s.accepts row = true
  · have hargs : t.laidOut row = s.laidOut row := congrFun (laidOut_of_kept s h hlen) row
    have htrow : t.accepts row = true := (congrFun (accepts_of_kept s h) row).trans hrow
    have hcode : ∀ {x y}, R x y → ∀ e,
        (s.routine.process x s.context.settings (s.laidOut row) e).Alike R
          (s.routine.process y t.context.settings (t.laidOut row) e) := by
      intro x y hxy e
      rw [hargs]
      exact hr.process hxy _ _ _ e
    have houtput := (hcontext.process hcode 0 hroom).2
    rw [process, process, onRow_of_accepts s hrow, onRow_of_accepts t htrow]
    change Except.ok (Output.ofReply (t.context.process t.routine (t.laidOut row) _ _)) = _
    rw [h.routine]
    exact congrArg Except.ok houtput
  · have hmisuse : t.rowMisuse? row = s.rowMisuse? row := by
      rw [rowMisuse?, rowMisuse?, h.initialized, h.types, name, name, h.symbols]
    rw [process, process, onRow_eq, onRow_eq, hmisuse]
    cases hm : s.rowMisuse? row with
    | some m => rfl
    | none => exact absurd (s.rowMisuse?_eq_none_iff.1 hm) hrow

/-- **Rows are independent.**  Of every function of the catalog but the two that number the rows, let a
session have begun a statement.  After any rows, whatever became of them, a row comes to what it would have
come to as the first: to the same output if it fits, and else to the same refusal.  Of `lipsum` and
`lookup6`, which ask code outside the library, this is said for answers that depend on the question
alone. -/
theorem rows_are_independent {outside : Outside} {f : Registered} (hf : f ∈ Catalog.functions outside)
    (hsequence : "udf_sequence" ∉ f.names) (htracked : "tracked" ∉ f.names) (script : Script)
    {u : Session f.State} (hu : u.routine = f.code script) {items : List Sample}
    (hinit : (u.init items).result = .ok ()) (rows : List (List Datum)) (row : List Datum) :
    let s := (u.init items).session
    (((s.performAll (Operation.ofRows rows)).process row).result = (s.process row).result)
      ∧ (s.accepts row = true → ∃ output, (s.process row).result = .ok output) := by
  intro s
  obtain ⟨R, hr⟩ := Catalog.undisturbed_of_mem hf hsequence htracked script
  have hs : s.routine.Undisturbed R := by
    rw [show s.routine = f.code script from (u.routine_performAll [.init items]).trans hu]
    exact hr
  have hkept : Kept s (s.performAll (Operation.ofRows rows)) :=
    s.kept_performAll (u.initialized_init hinit) fun _ => Operation.ne_deinit_of_mem_ofRows
  have hcontext := alike_ofRows hs (Twin.refl hs).context rows
  exact ⟨hkept.result_process (s.room_performAll _) (fits_init hinit) hs.respects hcontext row,
    fun hrow => ⟨_, s.result_process hrow⟩⟩

/-- A greeting after another one and a row that does not fit. -/
theorem rows_are_independent_greet :
    let u : Session Functions.Made :=
      { routine := Functions.greet, traced := none
        symbols := ⟨"greet", false, some (), some (), some ⟨.string, ()⟩, none, none, none⟩
        context := .fresh, items := [], types := [], buffer := List.replicate resultSize 0
        initialized := false, flags := .clear }
    let s := (u.init [⟨.string none, "name", true⟩]).session
    let rows : List (List Datum) := [[.string (some "you")], [], [.bytes (some [255])]]
    ((s.performAll (Operation.ofRows rows)).process [.string (some "me")]).result
        = (s.process [.string (some "me")]).result
      ∧ ∃ output, (s.process [.string (some "me")]).result = .ok output := by
  have hf : Registered.basic ["greet"] "Greet" Functions.greet ∈ Catalog.functions default :=
    List.mem_iff_getElem.2 ⟨19, by decide, rfl⟩
  have hsequence : "udf_sequence" ∉ ["greet"] := by decide
  have htracked : "tracked" ∉ ["greet"] := by decide
  intro u s rows
  have hu : u.routine = Functions.greet := rfl
  have hinit : (u.init [⟨.string none, "name", true⟩]).result = .ok () := rfl
  obtain ⟨hsame, houtput⟩ := rows_are_independent hf hsequence htracked .idle hu hinit rows
    [.string (some "me")]
  exact ⟨hsame, houtput rfl⟩

end Session
end Loadable
