/-
# Statements that are running

A session within a statement owes what later calls build on to one `init`, the last that succeeded: it
left the types of the arguments and, where it is the function's own, a state (`Session.Used.running`).
No operation since has ended the statement, so all have kept both.
-/

import Loadable.Proofs.Initialization
import Loadable.Proofs.Lifetime
import Loadable.Proofs.Renewal

namespace Loadable
namespace Session

variable {σ : Type} {s t : Session σ}

/-- A session with a function, used in any way since it was started. -/
def Used (r : Routine σ) (s : Session σ) : Prop :=
  ∃ traced lookup name aggregate returns fresh ops,
    start r traced lookup name aggregate returns = .ok fresh ∧ s = fresh.performAll ops

/-- A statement that is running was begun by an `init`, and has kept since what it left. -/
def Began (s : Session σ) : Prop :=
  s.initialized = true → ∃ (u : Session σ) (items : List Sample),
    (u.init items).result = .ok () ∧ Kept (u.init items).session s

/-- An `init` begins a statement only if it succeeds. -/
theorem result_init (hs : s.initialized = false) {items : List Sample}
    (h : (s.init items).session.initialized = true) : (s.init items).result = .ok () := by
  rw [init, if_neg (Bool.eq_false_iff.1 hs)] at h ⊢
  dsimp only at h ⊢
  split at h
  case isTrue hnone => rw [if_pos hnone]; rfl
  case isFalse hnone =>
    rw [if_neg hnone]
    unfold entered at h ⊢
    dsimp only at h ⊢
    split at h
    · exact absurd (hs.symm.trans h) Bool.false_ne_true
    · rfl

theorem Began.perform (h : s.Began) (op : Operation) : (s.perform op).Began := by
  intro hinit
  by_cases hs : s.initialized = true
  · obtain ⟨u, items, hok, hkept⟩ := h hs
    have hop : op ≠ .deinit := by
      rintro rfl
      exact absurd (s.initialized_deinit.symm.trans hinit) Bool.false_ne_true
    exact ⟨u, items, hok, hkept.trans (s.kept_of_running hs hop)⟩
  · have hfalse := Bool.eq_false_iff.2 hs
    cases op with
    | init items => exact ⟨s, items, result_init hfalse hinit, Kept.refl _⟩
    | deinit => exact absurd (s.initialized_deinit.symm.trans hinit) Bool.false_ne_true
    | run items rows =>
      cases hresult : (s.init items).result with
      | ok u =>
        have hend := s.initialized_run rows hresult
        exact absurd (hend.symm.trans hinit) Bool.false_ne_true
      | error e =>
        have hsession : s.perform (.run items rows) = (s.init items).session := by
          rw [Session.perform, run, Reply.andThen, hresult]
        rw [hsession] at hinit
        cases hresult.symm.trans (result_init hfalse hinit)
    | _ => exact absurd ((kept_perform s rfl).initialized.symm.trans hinit) hs

theorem Began.performAll (h : s.Began) (ops : List Operation) : (s.performAll ops).Began := by
  induction ops generalizing s with
  | nil => exact h
  | cons op ops ih => exact ih (h.perform op)

/-- **A statement that is running** has an argument for each type.  Where the function has its own `init`
there is a state, and the types are those that a successful `init` left. -/
theorem Used.running {r : Routine σ} (h : Used r s) (hinit : s.initialized = true) :
    s.routine = r ∧ s.items.length = s.types.length
      ∧ (s.symbols.init.isSome = true → s.hasState = true ∧ ∃ c args,
        (Context.init r c args).message = none ∧ s.types = Samples.typesOf (c.init r args).args) := by
  obtain ⟨traced, lookup, name, aggregate, returns, fresh, ops, hfresh, rfl⟩ := h
  have hroutine : (fresh.performAll ops).routine = r :=
    (fresh.routine_performAll ops).trans (start_fresh hfresh).1
  have hnew : fresh.Began := fun h => absurd ((start_ok hfresh).2.symm.trans h) Bool.false_ne_true
  obtain ⟨u, items, hok, hkept⟩ := hnew.performAll ops hinit
  refine ⟨hroutine, hkept.length_items (fits_init hok), fun hsome => ?_⟩
  rcases (u.init_ok hok).2 with ⟨hnone, hsession⟩ | ⟨-, hmessage, hsession⟩
  · rw [hkept.symbols, hsession] at hsome
    change u.symbols.init.isSome = true at hsome
    simp [hnone] at hsome
  · have hu : u.routine = r := by
      have hsame := hkept.routine
      rw [hsession] at hsame
      exact hsame.symm.trans hroutine
    have hstate : (u.init items).session.hasState = true := by
      have hmade := u.context.hasState_init u.routine (items.map Sample.place)
      rw [hmessage] at hmade
      rw [hsession]
      exact hmade
    rw [hu] at hmessage hsession
    exact ⟨hkept.hasState.trans hstate, u.context, _, hmessage, by rw [hkept.types, hsession]; rfl⟩

end Session
end Loadable
