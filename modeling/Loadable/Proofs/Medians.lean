/-
# Upper medians

`udf_median` keeps the values of its group in a list.  A call for the median sorts that list in its place, and
rows that come later are put behind what was sorted, so the order in the list depends on when the median was
asked for.  What is in it does not: it holds the values of the rows since the last new group, each as often as
it came (`Context.median_values`).

The median is the element of a rank (`HasRank`) among them, and a rank is held by one element only
(`HasRank.unique`).  So it depends on nothing else (`Context.upper_median_of_group`): not on the order of the
rows, and not on how often and where between them it was asked for.
-/

import Loadable.Functions.Groups
import Loadable.Proofs.Initialization
import Loadable.Proofs.Lifetime
import Mathlib.Data.Multiset.Filter

namespace Loadable

/-! ### Ranks -/

/-- The element of a rank, counted from zero: at most so many are less, and more than so many are no greater. -/
def HasRank (values : Multiset Int64) (rank : Nat) (v : Int64) : Prop :=
  values.countP (· < v) ≤ rank ∧ rank < values.countP (· ≤ v)

namespace HasRank

variable {values : Multiset Int64} {rank : Nat} {v w : Int64}

/-- What holds a rank is one of the values. -/
theorem mem (h : HasRank values rank v) : v ∈ values := by
  by_contra hmem
  have hsame : values.countP (· ≤ v) = values.countP (· < v) := by
    refine Multiset.countP_congr rfl fun w hw => ?_
    have hne : w ≠ v := fun h => hmem (h ▸ hw)
    simp [Int64.lt_iff_le_and_ne, hne]
  have hless := h.1.trans_lt h.2
  rw [hsame] at hless
  exact hless.false

theorem le (hv : HasRank values rank v) (hw : HasRank values rank w) : v ≤ w := by
  by_contra hlt
  have hbelow : ∀ x, x ≤ w → x < v := fun x hx => Int64.lt_of_le_of_lt hx (Int64.not_le.1 hlt)
  have hcount : values.countP (· ≤ w) ≤ values.countP (· < v) := by
    rw [Multiset.countP_eq_card_filter, Multiset.countP_eq_card_filter]
    exact Multiset.card_le_card (Multiset.monotone_filter_right values hbelow)
  exact absurd (hw.2.trans_le (hcount.trans hv.1)) (Nat.lt_irrefl rank)

/-- **A rank is held by one element only.** -/
theorem unique (hv : HasRank values rank v) (hw : HasRank values rank w) : v = w :=
  Int64.le_antisymm (hv.le hw) (hw.le hv)

end HasRank

/-- In a list that is sorted the element at a place has the rank of the place. -/
theorem hasRank_of_sorted {values : List Int64} (h : values.Pairwise (· ≤ ·)) {rank : Nat} {v : Int64}
    (hv : values[rank]? = some v) : HasRank values rank v := by
  obtain ⟨hlt, rfl⟩ := List.getElem?_eq_some_iff.1 hv
  have hsplit : values = values.take rank ++ values[rank] :: values.drop (rank + 1) := by
    rw [List.getElem_cons_drop, List.take_append_drop]
  have hlen : (values.take rank).length = rank := List.length_take_of_le hlt.le
  generalize values[rank] = v at hsplit
  generalize values.take rank = before at hsplit hlen
  generalize values.drop (rank + 1) = after at hsplit
  subst hsplit
  obtain ⟨-, hafter, hbefore⟩ := List.pairwise_append.1 h
  have hfirst : before.countP (· ≤ v) = rank := by
    rw [← hlen, List.countP_eq_length]
    exact fun a ha => decide_eq_true (hbefore a ha v List.mem_cons_self)
  have hrest : (v :: after).countP (· < v) = 0 := by
    refine List.countP_eq_zero.2 (List.forall_mem_cons.2 ⟨by simp, fun a ha => ?_⟩)
    simpa using (List.pairwise_cons.1 hafter).1 a ha
  constructor
  · rw [Multiset.coe_countP, List.countP_append, hrest]
    exact List.countP_le_length.trans hlen.le
  · rw [Multiset.coe_countP, List.countP_append, hfirst, List.countP_cons_of_pos (by simp)]
    exact Nat.lt_add_of_pos_right (Nat.succ_pos _)

/-! ### The rows of a group -/

namespace Call

/-- Whether a callback begins a group. -/
def begins : Call → Bool
  | clear _ => true
  | _ => false

/-- The row that a callback folds into the group. -/
def added? : Call → Option (List Argument)
  | add args _ => some args
  | _ => none

/-- Whether a callback leaves a state in its place: it neither makes one nor gives one up. -/
def keepsState : Call → Bool
  | init _ => false
  | deinit => false
  | _ => true

/-- The rows that were folded in since the last new group. -/
def groupRows (calls : List Call) : List (List Argument) :=
  ((calls.reverse.takeWhile fun call => !call.begins).filterMap added?).reverse

theorem groupRows_snoc (calls : List Call) (call : Call) :
    groupRows (calls ++ [call])
      = if call.begins then [] else groupRows calls ++ call.added?.toList := by
  unfold groupRows
  rw [List.reverse_append, List.reverse_singleton, List.singleton_append, List.takeWhile_cons]
  cases call.begins with
  | true => rfl
  | false => cases hrow : call.added? <;> simp [hrow]

end Call

/-- The integer that a value counts as: a real counts with its integer part, and neither a text nor a decimal
nor NULL counts. -/
def Value.counted? : Value → Option Int64
  | int v => v
  | real v => v.map Double.truncate
  | string _ => none
  | decimal _ => none

namespace Functions

theorem wholeNumber?_eq (v : Value) : wholeNumber? v = v.counted? := by
  cases v with
  | int v => cases v <;> rfl
  | _ => rfl

/-- The value that a row adds to a median: that of its first argument, where it counts. -/
def medianValue? (args : List Argument) : Option Int64 := args[0]?.bind fun a => a.value.counted?

/-- The values that rows add to a median. -/
def medianValues (rows : List (List Argument)) : Multiset Int64 := (rows.filterMap medianValue? : List Int64)

theorem medianValues_append (rows rows' : List (List Argument)) :
    medianValues (rows ++ rows') = medianValues rows + medianValues rows' := by
  rw [medianValues, List.filterMap_append]
  rfl

theorem medianValues_of_perm {rows rows' : List (List Argument)} (h : rows.Perm rows') :
    medianValues rows = medianValues rows' := Multiset.coe_eq_coe.2 (h.filterMap _)

/-- A statement begins with no values. -/
theorem init_udfMedian {p : Preparation} {args : List Argument} {values : List Int64}
    (h : (udfMedian.init p args).outcome = .ok values) : values = [] := by
  dsimp only [udfMedian] at h
  split at h
  · cases h
  · cases h
    rfl

/-- A row puts its value behind those that are there. -/
theorem state_add_udfMedian (values : List Int64) (settings : Settings) (args : List Argument)
    (error : Option Code) :
    (udfMedian.add values settings args error).state = values ++ (medianValue? args).toList := by
  dsimp only [udfMedian]
  simp only [wholeNumber?_eq]
  unfold medianValue?
  cases args[0]?.bind fun a => a.value.counted? with
  | none => exact (List.append_nil values).symm
  | some v => rfl

/-- Sorting integers leaves them in order. -/
theorem sorted_mergeSort (values : List Int64) : (values.mergeSort (· ≤ ·)).Pairwise (· ≤ ·) := by
  refine (List.pairwise_mergeSort (fun a b c hab hbc => ?_) (fun a b => ?_) values).imp of_decide_eq_true
  · exact decide_eq_true (Int64.le_trans (of_decide_eq_true hab) (of_decide_eq_true hbc))
  · rcases Int64.le_total a b with hab | hba
    · rw [decide_eq_true hab, Bool.true_or]
    · rw [decide_eq_true hba, Bool.or_true]

/-- Asking for the median sorts the values, and gives the one in the middle. -/
theorem process_udfMedian (values : List Int64) (settings : Settings) (args : List Argument)
    (error : Option Code) :
    ∃ sorted : List Int64, sorted.Perm values ∧ sorted.Pairwise (· ≤ ·)
      ∧ udfMedian.process values settings args error = ⟨sorted, .ok sorted[values.length / 2]?, []⟩ := by
  refine ⟨values.mergeSort (· ≤ ·), values.mergeSort_perm _, sorted_mergeSort values, ?_⟩
  dsimp only [udfMedian]
  rw [List.length_mergeSort]

end Functions

namespace Context

open Functions

variable {c : Context (List Int64)} {values : List Int64} {stash : Option Bytes}

/-- **One callback** begins with no values, adds that of a row, or changes no more than the order. -/
theorem median_values_perform (hcell : c.cell = some ⟨values, stash⟩) {call : Call}
    (hcall : call.keepsState = true) :
    ∃ values' stash', (c.perform ⟨udfMedian, call⟩).cell = some ⟨values', stash'⟩
      ∧ (values' : Multiset Int64)
        = if call.begins then 0 else values + medianValues call.added?.toList := by
  cases call with
  | clear flags => exact ⟨[], stash, c.cell_stepWith .clear _ flags hcell, rfl⟩
  | add args flags =>
    refine ⟨_, stash, c.cell_stepWith .add _ flags hcell, ?_⟩
    have hrow : medianValues [args] = (medianValue? args).toList := by
      cases hv : medianValue? args <;> simp [medianValues, hv]
    rw [state_add_udfMedian, ← Multiset.coe_add, ← hrow]
    rfl
  | remove args flags =>
    exact ⟨values, stash, c.cell_stepWith .remove _ flags hcell, (Multiset.add_zero _).symm⟩
  | process args flags area =>
    obtain ⟨sorted, hperm, -, hrun⟩ := process_udfMedian values c.settings args flags.code?
    obtain ⟨stash', hafter⟩ := c.cell_process udfMedian args flags area hcell
    rw [hrun] at hafter
    exact ⟨sorted, stash', hafter, (Multiset.coe_eq_coe.2 hperm).trans (Multiset.add_zero _).symm⟩
  | init args => cases hcall
  | deinit => cases hcall

/-- **After a run of callbacks** the values are those of the rows since the last new group. -/
theorem median_values_performAll (hcell : c.cell = some ⟨[], stash⟩) {calls : List Call}
    (hcalls : ∀ call ∈ calls, call.keepsState = true) :
    ∃ values stash', (c.performAll (calls.map (Step.mk udfMedian))).cell = some ⟨values, stash'⟩
      ∧ (values : Multiset Int64) = medianValues (Call.groupRows calls) := by
  induction calls using List.reverseRecOn with
  | nil => exact ⟨[], stash, hcell, rfl⟩
  | append_singleton calls call ih =>
    obtain ⟨values, stash', hvalues, hrows⟩ := ih fun call h => hcalls call (List.mem_append_left _ h)
    obtain ⟨values', stash'', hafter, hstep⟩ := median_values_perform hvalues (hcalls call (by simp))
    refine ⟨values', stash'', ?_, ?_⟩
    · rw [List.map_append, List.map_singleton, performAll_snoc]
      exact hafter
    · rw [hstep, hrows, Call.groupRows_snoc]
      split
      · rfl
      · rw [medianValues_append]

/-- A call came to the median of values: NULL if there are none, and else the value in the middle, of two the
greater.  Nothing is logged. -/
structure GivesMedian (values : Multiset Int64) (flags : Flags) (reply : ProcessReply (List Int64)) : Prop where
  null : values = 0 → reply.returned = .int 0 ∧ reply.flags = flags.setNull
  value : values ≠ 0 →
    ∃ v, HasRank values (values.card / 2) v ∧ reply.returned = .int v ∧ reply.flags = flags
  events : reply.events = []

/-- A call for the median of what is in the list. -/
theorem givesMedian_process (hcell : c.cell = some ⟨values, stash⟩) (args : List Argument) (flags : Flags)
    (area : ResultArea) : GivesMedian values flags (c.process udfMedian args flags area) := by
  obtain ⟨sorted, hperm, hsorted, hrun⟩ := process_udfMedian values c.settings args flags.code?
  rw [process_prepared udfMedian c args flags area hcell, hrun, ← Multiset.coe_eq_coe.2 hperm,
    ← hperm.length_eq]
  cases hv : sorted[sorted.length / 2]? with
  | none =>
    have hlen := List.getElem?_eq_none_iff.1 hv
    have hnil : (sorted : Multiset Int64) = 0 :=
      (Multiset.coe_eq_zero _).2 (List.length_eq_zero_iff.1 (by omega))
    exact ⟨fun _ => ⟨rfl, rfl⟩, fun hne => absurd hnil hne, rfl⟩
  | some v =>
    have hrank := hasRank_of_sorted hsorted hv
    have hne : (sorted : Multiset Int64) ≠ 0 := fun h => Multiset.notMem_zero v (h ▸ hrank.mem)
    exact ⟨fun h => absurd h hne, fun _ => ⟨v, hrank, rfl, rfl⟩, rfl⟩

/-- Two calls for the median of the same values return the same. -/
theorem GivesMedian.unique {members : Multiset Int64} {flags : Flags} {reply reply' : ProcessReply (List Int64)}
    (h : GivesMedian members flags reply) (h' : GivesMedian members flags reply') :
    reply'.returned = reply.returned ∧ reply'.flags = reply.flags := by
  by_cases hnone : members = 0
  · obtain ⟨hreturned, hflags⟩ := h.null hnone
    obtain ⟨hreturned', hflags'⟩ := h'.null hnone
    exact ⟨hreturned'.trans hreturned.symm, hflags'.trans hflags.symm⟩
  · obtain ⟨v, hv, hreturned, hflags⟩ := h.value hnone
    obtain ⟨v', hv', hreturned', hflags'⟩ := h'.value hnone
    obtain rfl := hv.unique hv'
    exact ⟨hreturned'.trans hreturned.symm, hflags'.trans hflags.symm⟩

/-- **The upper median of a group.**  After a successful `init` let there be any callbacks for groups, rows and
medians, in any order.  Then a call for the median comes to NULL if no row since the last new group, or since
`init`, had an integer or a real as its first argument; and else to the element in the middle of these values,
reals with their integer part, of two in the middle to the greater.  Any other callbacks whose rows since the
last new group are the same, in whatever order and with whatever calls for the median among them, make no
difference. -/
theorem upper_median_of_group {c : Context (List Int64)} {items : List Argument}
    (hinit : (c.init udfMedian items).message = none) {calls : List Call}
    (hcalls : ∀ call ∈ calls, call.keepsState = true) (args : List Argument) (flags : Flags) (area : ResultArea) :
    let after (calls : List Call) := (c.init udfMedian items).context.performAll (calls.map (Step.mk udfMedian))
    let reply := (after calls).process udfMedian args flags area
    GivesMedian (medianValues (Call.groupRows calls)) flags reply
      ∧ ∀ others : List Call, (∀ call ∈ others, call.keepsState = true) →
        (Call.groupRows others).Perm (Call.groupRows calls) →
        let reply' := (after others).process udfMedian args flags area
        reply'.returned = reply.returned ∧ reply'.flags = reply.flags := by
  intro after reply
  have hstart : (c.init udfMedian items).context.cell = some ⟨[], none⟩ := by
    obtain ⟨values, hvalues, hcell⟩ := c.init_made udfMedian items hinit
    rw [hcell, init_udfMedian hvalues]
  have hgives : ∀ calls : List Call, (∀ call ∈ calls, call.keepsState = true) →
      GivesMedian (medianValues (Call.groupRows calls)) flags ((after calls).process udfMedian args flags area) := by
    intro calls hcalls
    obtain ⟨values, stash, hcell, hvalues⟩ := median_values_performAll hstart hcalls
    exact hvalues ▸ givesMedian_process hcell args flags area
  refine ⟨hgives calls hcalls, fun others hothers hperm => (hgives calls hcalls).unique ?_⟩
  rw [← medianValues_of_perm hperm]
  exact hgives others hothers

/-- A group of an integer, a real, a text, a NULL and another integer, asked for its median before the last of
them came, and begun after a row of the group before. -/
theorem upper_median_of_group_threeValues :
    let row (d : Datum) : List Argument := [(⟨d, "v", true⟩ : Sample).place]
    let start : Context (List Int64) := (Context.fresh.init udfMedian (row (.int none))).context
    let calls : List Call :=
      [.add (row (.int (some 100))) .clear, .clear .clear, .add (row (.int (some 9))) .clear,
        .add (row (.real (some ⟨0x400599999999999A⟩))) .clear, .add (row (.string (some "7"))) .clear,
        .process [] .clear ⟨none, 0⟩, .add (row (.int none)) .clear, .add (row (.int (some 4))) .clear]
    let reply := (start.performAll (calls.map (Step.mk udfMedian))).process udfMedian [] .clear ⟨none, 0⟩
    reply.returned = .int 4 ∧ reply.flags = .clear := by
  intro row start calls reply
  have hinit : ((Context.fresh (σ := List Int64)).init udfMedian (row (.int none))).message = none := rfl
  have hcalls : ∀ call ∈ calls, call.keepsState = true := by decide
  have hvalues : medianValues (Call.groupRows calls) = {9, 2, 4} := by decide +kernel
  obtain ⟨hmedian, -⟩ := upper_median_of_group hinit hcalls [] .clear ⟨none, 0⟩
  rw [hvalues] at hmedian
  obtain ⟨v, hv, hreturned, hflags⟩ := hmedian.value (by decide)
  have hfour : HasRank {9, 2, 4} 1 (4 : Int64) := ⟨by decide, by decide⟩
  obtain rfl := hv.unique hfour
  exact ⟨hreturned, hflags⟩

end Context
end Loadable
