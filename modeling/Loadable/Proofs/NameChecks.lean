/-
# Checks of names

What handles the groups of an aggregate is registered apart from its function, and the names of the two
are compared before anything runs.  The comparison is exact (`names_are_checked_exactly`): it passes for
the same names in the same order only, and a read past the end of a shorter text or list, which would stop
it for another reason, does not happen.
-/

import Loadable.Proofs.Exports

namespace Loadable
namespace Registration

namespace Names

variable {registered : Names} {name : String} {aliases : List String}

/-- A wrong name is reported, whatever the aliases are. -/
theorem verify_of_name_ne (h : name ≠ registered.name) :
    registered.verify name aliases = .err (.name registered.isDefault) := by
  rw [verify_eq, if_pos h.symm]

/-- Wrong aliases are reported where the name is right. -/
theorem verify_of_aliases_ne (hname : name = registered.name) (h : aliases ≠ registered.aliases) :
    registered.verify name aliases = .err .aliases := by
  rw [verify_eq, if_neg (not_not_intro hname.symm), if_pos h.symm]

theorem verify_self (registered : Names) :
    registered.verify registered.name registered.aliases = .ok () := by
  simp [verify_eq]

/-- Each answer of the check is given just where it is due. -/
theorem verify_exact :
    (registered.verify name aliases = .ok () ↔ name = registered.name ∧ aliases = registered.aliases)
      ∧ (registered.verify name aliases = .err (.name registered.isDefault) ↔ name ≠ registered.name)
      ∧ (registered.verify name aliases = .err .aliases ↔
        name = registered.name ∧ aliases ≠ registered.aliases) := by
  by_cases hname : name = registered.name
  · subst hname
    by_cases haliases : aliases = registered.aliases
    · subst haliases
      simp [verify_self]
    · simp [verify_of_aliases_ne rfl haliases, haliases]
  · simp [verify_of_name_ne hname, hname]

/-- All names are the same if the name and the aliases are. -/
theorem all_eq_iff {m n : Names} : m.all = n.all ↔ m.name = n.name ∧ m.aliases = n.aliases := by
  rw [all, all, List.cons.injEq]

end Names

/-- Groups pass the check under the names of the function and under no others. -/
theorem Declaration.check_aggregate (self : List Source.Token) (names registered : Names) :
    (aggregate self names).check registered = .ok () ↔ names.all = registered.all := by
  rw [check, Names.verify_exact.1, Names.all_eq_iff]

/-- **Names are checked exactly.**  The comparisons of texts and of lists of texts answer for any two, and
what they answer is whether the two are equal.  A registration of groups passes the check if it has the
name of the function and its aliases in their order.  Else the name is reported if it is wrong, and the
aliases if only they are.  So what is emitted for groups under any other names does not pass. -/
theorem names_are_checked_exactly :
    (∀ a b : String, sameText a b = .ok (decide (a = b)))
      ∧ (∀ as bs : List String, sameTexts as bs = .ok (decide (as = bs)))
      ∧ (∀ (registered : Names) (name : String) (aliases : List String),
        (registered.verify name aliases = .ok () ↔ name = registered.name ∧ aliases = registered.aliases)
          ∧ (registered.verify name aliases = .err (.name registered.isDefault) ↔
            name ≠ registered.name)
          ∧ (registered.verify name aliases = .err .aliases ↔
            name = registered.name ∧ aliases ≠ registered.aliases))
      ∧ ∀ {given : GivenNames} {i : Source.Implementation} {e : Expansion},
        Expansion.ofImplementation given i = .ok e → i.trait.bind Role.ofPath? = some .aggregate →
        ∃ names, e.declaration = .aggregate i.selfType.tokens names
          ∧ Emission e.exports names.all (groupSlots i.selfType.tokens (i.hasFunction "remove"))
          ∧ ∀ registered, e.declaration.check registered = .ok () ↔ names.all = registered.all := by
  refine ⟨sameText_eq, sameTexts_eq, fun registered name aliases => Names.verify_exact, ?_⟩
  intro given i e h hrole
  obtain ⟨names, hdeclaration, hemission⟩ := Expansion.emission_aggregate h hrole
  refine ⟨names, hdeclaration, hemission, fun registered => ?_⟩
  rw [hdeclaration]
  exact Declaration.check_aggregate _ names registered

/-- Groups of an average pass under the names of its function, and not with two aliases exchanged. -/
theorem names_are_checked_exactly_average :
    let self : Source.TypeExpr := .path false false [.mk "Avg" .none] [.word "Avg"]
    let i : Source.Implementation :=
      ⟨some ⟨false, [.mk "AggregateUdf" .none]⟩, 0, self,
        [.function "clear", .function "add", .function "remove"]⟩
    let registered : Names := ⟨"avg_real", ["mean", "average"], false⟩
    (∃ e, Expansion.ofImplementation ⟨some "avg_real", ["mean", "average"]⟩ i = .ok e
        ∧ e.declaration.check registered = .ok ())
      ∧ ∃ e, Expansion.ofImplementation ⟨some "avg_real", ["average", "mean"]⟩ i = .ok e
        ∧ e.declaration.check registered ≠ .ok () := by
  intro self i registered
  have hrole : i.trait.bind Role.ofPath? = some .aggregate := by decide +kernel
  have hnames : ∀ aliases ∈ [["mean", "average"], ["average", "mean"]],
      (Expansion.ofImplementation ⟨some "avg_real", aliases⟩ i).toOption.any
        (fun e => e.declaration.names.all = "avg_real" :: aliases) = true := by
    decide +kernel
  -- what the theorem says of a registration that is accepted, in terms of its aliases alone
  have hcheck (aliases : List String) (h : aliases ∈ [["mean", "average"], ["average", "mean"]]) :
      ∃ e, Expansion.ofImplementation ⟨some "avg_real", aliases⟩ i = .ok e
        ∧ (e.declaration.check registered = .ok () ↔ "avg_real" :: aliases = registered.all) := by
    obtain ⟨e, he, hall⟩ := Except.exists_of_any (hnames aliases h)
    obtain ⟨names, hdeclaration, -, hiff⟩ := names_are_checked_exactly.2.2.2 he hrole
    rw [hdeclaration] at hall
    refine ⟨e, he, ?_⟩
    rw [hiff, ← of_decide_eq_true hall]
    rfl
  obtain ⟨e, he, hiff⟩ := hcheck _ (.head _)
  obtain ⟨e', he', hiff'⟩ := hcheck _ (.tail _ (.head _))
  exact ⟨⟨e, he, hiff.2 rfl⟩, e', he', fun h => absurd (hiff'.1 h) (by decide)⟩

end Registration
end Loadable
