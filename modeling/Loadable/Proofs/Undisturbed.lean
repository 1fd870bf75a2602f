/-
# Code that asking does not disturb

A call for a value may change the state of a function.  `udf_median` sorts the values of its group,
`greet` writes over the text that it made before, a scripted function counts the call.  In most
functions nothing shows of that: `Routine.Undisturbed` names a relation on the states that the code
respects and that a call for a value does not leave, so that every later call ends as it would have
without it.

Every function of the catalog is of that kind but the two that number the rows
(`Catalog.undisturbed_of_mem`).
-/

import Loadable.Proofs.GroupIndependence
import Loadable.Proofs.Medians

namespace Loadable

namespace Routine

variable {σ : Type} {r : Routine σ}

/-- A function whose calls for a value leave its state as good as it was: up to a relation on the states
that its code respects. -/
structure Undisturbed (r : Routine σ) (R : σ → σ → Prop) : Prop where
  respects : r.Respects R
  refl : ∀ x, R x x
  process : ∀ {x y}, R x y → ∀ c args e, R x (r.process y c args e).state

/-- A function whose code gives the same whatever the settings, and writes nothing in a call for a value. -/
theorem undisturbed_of_reads
    (process : ∀ x c d args e, (r.process x c args e).Alike Eq (r.process x d args e))
    (clear : ∀ x c d e, (r.clear x c e).Alike Eq (r.clear x d e))
    (add : ∀ x c d args e, (r.add x c args e).Alike Eq (r.add x d args e))
    (remove : ∀ x c d args e, (r.remove x c args e).Alike Eq (r.remove x d args e))
    (reads : ∀ x c args e, (r.process x c args e).state = x) : r.Undisturbed Eq where
  respects := respects_eq r process clear add remove
  refl _ := rfl
  process := by
    rintro x - rfl c args e
    exact (reads x c args e).symm

/-- A function of rows, whose value does not depend on its state. -/
theorem undisturbed_true
    (process : ∀ x y c d args e, (r.process y d args e).outcome = (r.process x c args e).outcome)
    (clear : ∀ x y c d e, (r.clear y d e).outcome = (r.clear x c e).outcome)
    (add : ∀ x y c d args e, (r.add y d args e).outcome = (r.add x c args e).outcome)
    (remove : ∀ x y c d args e, (r.remove y d args e).outcome = (r.remove x c args e).outcome) :
    r.Undisturbed fun _ _ => True where
  respects :=
    { process := fun _ c d args e => ⟨process _ _ c d args e, trivial⟩
      clear := fun _ c d e => ⟨clear _ _ c d e, trivial⟩
      add := fun _ c d args e => ⟨add _ _ c d args e, trivial⟩
      remove := fun _ c d args e => ⟨remove _ _ c d args e, trivial⟩ }
  refl _ := trivial
  process _ _ _ _ := trivial

end Routine

/-! ### The functions of the catalog -/

/-- Of a scripted function only the calls are counted. -/
theorem Scripted.undisturbed (f : Scripted) (script : Script) :
    (f.routine script).Undisturbed fun _ _ => True where
  respects := f.respects script fun _ => trivial
  refl _ := trivial
  process _ _ _ _ := trivial

namespace Functions

/-- Lists of the same values are sorted to the same list. -/
theorem mergeSort_eq_of_perm {xs ys : List Int64} (h : xs.Perm ys) :
    ys.mergeSort (· ≤ ·) = xs.mergeSort (· ≤ ·) := by
  refine List.Perm.eq_of_pairwise (fun a b _ _ => Int64.le_antisymm) (sorted_mergeSort ys)
    (sorted_mergeSort xs) ?_
  exact ((ys.mergeSort_perm _).trans h.symm).trans (xs.mergeSort_perm _).symm

/-- The values of a median may stand in any order, and asking for it sorts them. -/
theorem undisturbed_udfMedian : udfMedian.Undisturbed List.Perm where
  respects := by
    refine ⟨fun h c d args e => ?_, fun _ _ _ _ => ⟨rfl, List.Perm.refl _⟩, fun h c d args e => ?_,
      fun h _ _ _ _ => ⟨rfl, h⟩⟩
    · dsimp only [udfMedian]
      rw [mergeSort_eq_of_perm h]
      exact ⟨rfl, List.Perm.refl _⟩
    · dsimp only [udfMedian]
      split
      · exact ⟨rfl, h.append_right _⟩
      · exact ⟨rfl, h⟩
  refl := List.Perm.refl
  process h _ _ _ := h.trans (List.mergeSort_perm _ _).symm

/-- The text that `collect_words` makes of its words replaces one that nothing reads. -/
theorem undisturbed_collectWords : collectWords.Undisturbed Words.Same where
  respects := regroups_collectWords.respects
  refl _ := rfl
  process {x y} h c args e := by
    refine Eq.trans (b := y.words) h ?_
    dsimp only [collectWords]
    split <;> rfl

/-- The bytes of `mishmash` and the greeting of `greet` replace those from before. -/
theorem undisturbed_mishmash : mishmash.Undisturbed fun _ _ => True :=
  Routine.undisturbed_true (fun _ _ _ _ _ _ => rfl) (fun _ _ _ _ _ => rfl)
    (fun _ _ _ _ _ _ => rfl) fun _ _ _ _ _ _ => rfl

@[inherit_doc undisturbed_mishmash]
theorem undisturbed_greet : greet.Undisturbed fun _ _ => True :=
  Routine.undisturbed_true (fun _ _ _ _ _ _ => rfl) (fun _ _ _ _ _ => rfl)
    (fun _ _ _ _ _ _ => rfl) fun _ _ _ _ _ _ => rfl

/-- So does the text of `lipsum`, where a row is no error. -/
theorem undisturbed_lipsum (filler : Filler) : (lipsum filler).Undisturbed fun _ _ => True := by
  refine Routine.undisturbed_true (fun x y c d args e => ?_) (fun _ _ _ _ _ => rfl)
    (fun _ _ _ _ _ _ => rfl) fun _ _ _ _ _ _ => rfl
  dsimp only [lipsum]
  split
  · rfl
  · split
    · rfl
    · split <;> rfl

end Functions

namespace Catalog

open Functions Routine

/-- **The functions of the catalog** are not disturbed by calls for a value, but for the two that number
the rows. -/
theorem undisturbed_of_mem {outside : Outside} {f : Registered} (hf : f ∈ functions outside)
    (hsequence : "udf_sequence" ∉ f.names) (htracked : "tracked" ∉ f.names) (script : Script) :
    ∃ R, (f.code script).Undisturbed R := by
  have hall : ∀ f ∈ functions outside, "udf_sequence" ∉ f.names → "tracked" ∉ f.names → ∀ script,
      ∃ R, (f.code script).Undisturbed R := by
    unfold functions
    simp only [List.forall_mem_append, List.forall_mem_cons, List.forall_mem_map]
    refine ⟨⟨?_, fun h => absurd (List.mem_singleton_self _) h,
      fun _ _ _ => ⟨_, undisturbed_lipsum _⟩, ?_, fun _ _ _ => ⟨_, undisturbed_mishmash⟩, ?_, ?_, ?_,
      ?_, ?_, fun _ _ _ => ⟨_, undisturbed_udfMedian⟩, ?_, ?_, ?_, ?_,
      fun _ h => absurd (List.mem_singleton_self _) h, ?_, fun _ _ _ => ⟨_, undisturbed_collectWords⟩,
      ?_, fun _ _ _ => ⟨_, undisturbed_greet⟩, ?_, ?_, ?_, ?_, ?_, ?_, ?_, ?_, ?_, ?_, ?_, nofun⟩,
      fun f _ _ _ script => ⟨_, f.undisturbed script⟩⟩
    -- the others only read their state, and read no settings
    all_goals
      exact fun _ _ _ => ⟨Eq, undisturbed_of_reads (fun _ _ _ _ _ => ⟨rfl, rfl⟩)
        (fun _ _ _ _ => ⟨rfl, rfl⟩) (fun _ _ _ _ _ => ⟨rfl, rfl⟩) (fun _ _ _ _ _ => ⟨rfl, rfl⟩)
        fun _ _ _ _ => rfl⟩
  exact hall f hf hsequence htracked script

end Catalog
end Loadable
