import Mathlib

/-!
Exchanging rows until every row is where it has to go.

Owns the permutation that is left after an exchange, the permutation between two
arrangements of the same positions, and the sorting of the misplaced ones.
-/

namespace DeepSpark.Lib

variable {ι : Type} [DecidableEq ι] {goal : Equiv.Perm ι} {src : ι}

/-! ## Exchanges -/

/-- Where each row has to go once the row at `src` has been exchanged with the one at its place. -/
def exchanged (goal : Equiv.Perm ι) (src : ι) : Equiv.Perm ι := goal * Equiv.swap src (goal src)

theorem exchanged_src : exchanged goal src src = goal (goal src) :=
  congrArg goal (Equiv.swap_apply_left ..)

theorem exchanged_place : exchanged goal src (goal src) = goal src :=
  congrArg goal (Equiv.swap_apply_right ..)

theorem exchanged_of_ne {row : ι} (notSrc : row ≠ src) (notPlace : row ≠ goal src) :
    exchanged goal src row = goal row :=
  congrArg goal (Equiv.swap_apply_of_ne_of_ne notSrc notPlace)

/-- A row in its place stays there. -/
theorem exchanged_of_fixed {row : ι} (fixed : goal row = row) (notSrc : row ≠ src) :
    exchanged goal src row = row := by
  by_cases isPlace : row = goal src
  · rw [isPlace]
    exact exchanged_place
  · rw [exchanged_of_ne notSrc isPlace, fixed]

/-- An exchange puts one more row in its place. -/
theorem card_support_exchanged [Fintype ι] (misplaced : goal src ≠ src) :
    (exchanged goal src).support.card < goal.support.card := by
  have back : goal⁻¹ (goal src) = src := goal.symm_apply_apply src
  have fewer := Equiv.Perm.card_support_swap_mul (f := goal⁻¹) (x := goal src) (by rw [back]; exact misplaced.symm)
  have isInverse : (exchanged goal src)⁻¹ = Equiv.swap (goal src) (goal⁻¹ (goal src)) * goal⁻¹ := by
    rw [exchanged, mul_inv_rev, Equiv.swap_inv, Equiv.swap_comm, back]
  rwa [← isInverse, Equiv.Perm.support_inv, Equiv.Perm.support_inv] at fewer

theorem exchanged_swap (row : ι) : exchanged goal src (Equiv.swap src (goal src) row) = goal row :=
  congrArg goal (Equiv.swap_apply_self ..)

/-! ## Two arrangements of the same positions -/

theorem lookup_zip {sources targets : List ι} (sameLength : sources.length = targets.length) (row : ι) :
    (sources.zip targets).lookup row = if row ∈ sources then targets[sources.idxOf row]? else none := by
  induction sources generalizing targets with
  | nil => rfl
  | cons source sources ih =>
    obtain _ | ⟨target, targets⟩ := targets
    · cases sameLength
    · rw [List.zip_cons_cons, List.lookup_cons]
      by_cases isFirst : row = source
      · simp [isFirst]
      · rw [beq_false_of_ne isFirst, ih (Nat.succ_injective sameLength)]
        simp [isFirst, List.idxOf_cons_ne _ (Ne.symm isFirst)]

/-- Two arrangements of the same positions, read as a dictionary with every other position mapped
to itself, are a permutation. -/
theorem exists_rearrangement [Finite ι] {sources targets : List ι} (perm : sources.Perm targets)
    (nodup : targets.Nodup) : ∃ goal : Equiv.Perm ι,
      (∀ row, ((sources.zip targets).lookup row).getD row = goal row) ∧
      (∀ row, row ∉ sources → goal row = row) ∧ sources.map goal = targets := by
  have sameLength := perm.length_eq
  generalize isDict : (fun row => ((sources.zip targets).lookup row).getD row) = dict
  have outside : ∀ row, row ∉ sources → dict row = row := by
    intro row isOutside
    simp [← isDict, lookup_zip sameLength, isOutside]
  have arranged : sources.map dict = targets := by
    refine List.ext_getElem (by simp [sameLength]) fun index bound inTargets => ?_
    rw [List.length_map] at bound
    simp [← isDict, lookup_zip sameLength, (perm.nodup_iff.mpr nodup).idxOf_getElem, inTargets]
  have lands : ∀ row ∈ sources, dict row ∈ sources := fun row isSource =>
    perm.mem_iff.mpr (arranged ▸ List.mem_map_of_mem isSource)
  have isInjective : Function.Injective dict := by
    intro first second same
    by_cases isFirst : first ∈ sources <;> by_cases isSecond : second ∈ sources
    · exact List.inj_on_of_nodup_map (arranged ▸ nodup) isFirst isSecond same
    · exact absurd (outside _ isSecond ▸ same ▸ lands _ isFirst) isSecond
    · exact absurd (outside _ isFirst ▸ same ▸ lands _ isSecond) isFirst
    · rwa [outside _ isFirst, outside _ isSecond] at same
  exact ⟨.ofBijective dict (Finite.injective_iff_bijective.mp isInjective), congrFun isDict, outside, arranged⟩

omit [DecidableEq ι] in
/-- Where the values of the positions that differ from a sorted arrangement of all values go, once
they are sorted among themselves. -/
theorem target_rearranged {positions : List ι} {region target : ι → Nat} {goal : ι → ι}
    (total : (positions.map region).Perm (positions.map target))
    (sorted : (positions.map target).Pairwise (· ≤ ·))
    (arranged : ((positions.filter fun row => region row ≠ target row).insertionSort
      fun i j => region i ≤ region j).map goal = positions.filter fun row => region row ≠ target row)
    {row : ι} (misplaced : row ∈ positions.filter fun row => region row ≠ target row) :
    target (goal row) = region row := by
  have parts := List.filter_append_perm (fun row => region row ≠ target row) positions
  have sameOthers : (positions.filter fun row => !decide (region row ≠ target row)).map region =
      (positions.filter fun row => !decide (region row ≠ target row)).map target :=
    List.map_congr_left fun row isOther => by simpa using (List.mem_filter.mp isOther).2
  have sortedTargets := sorted.sublist
    ((List.filter_sublist (p := fun row => region row ≠ target row)).map target)
  generalize positions.filter (fun row => region row ≠ target row) = orig at *
  have isPerm := List.perm_insertionSort (fun i j => region i ≤ region j) orig
  have isSorted : ((orig.insertionSort fun i j => region i ≤ region j).map region).Pairwise (· ≤ ·) := by
    exact List.pairwise_map.mpr (List.pairwise_insertionSort _ _)
  have sameValues := ((parts.map region).trans total).trans (parts.map target).symm
  rw [List.map_append, List.map_append, sameOthers, List.perm_append_right_iff] at sameValues
  have same := ((isPerm.map region).trans sameValues).eq_of_pairwise
    (fun _ _ _ _ => Nat.le_antisymm) isSorted sortedTargets
  nth_rewrite 2 [← arranged] at same
  rw [List.map_map] at same
  exact (List.map_inj_left.mp same row (isPerm.mem_iff.mpr misplaced)).symm

end DeepSpark.Lib
