import DeepSpark.Lib.CycleSwaps

/-!
`reorder_batch_to_split_decodes_and_prefills`.

Owns the four regions of a batch, the swaps along the cycles of the misplaced
requests, and that they sort the batch.
-/

namespace DeepSpark

open Lib Function

/-- A request's entries in the tables of the input batch, with its tokens in the scheduler output;
`others` stands for the columns the reordering only moves. -/
structure BatchEntry (β : Type) where
  numScheduledTokens : Int
  numPromptTokens : Int
  numComputedTokensCpu : Int
  others : β

namespace BatchEntry

variable {β : Type} (decodeThreshold : Int) (entry : BatchEntry β)

def hasContext : Bool := entry.numComputedTokensCpu > 0

def isBelowThreshold : Bool := entry.numScheduledTokens ≤ decodeThreshold

def donePrefilling : Bool := entry.numComputedTokensCpu ≥ entry.numPromptTokens

def isPurePrefill : Bool := !entry.hasContext

def isLongExtend : Bool := entry.hasContext && !entry.isBelowThreshold decodeThreshold

def isShortExtend : Bool :=
  entry.hasContext && entry.isBelowThreshold decodeThreshold && !entry.donePrefilling

def isDecode : Bool :=
  entry.hasContext && entry.isBelowThreshold decodeThreshold && entry.donePrefilling

def reqRegion : Nat :=
  if entry.isPurePrefill then 3
  else if entry.isLongExtend decodeThreshold then 2
  else if entry.isShortExtend decodeThreshold then 1
  else 0

theorem reqRegion_kinds :
    (entry.reqRegion decodeThreshold = 0 ↔ entry.isDecode decodeThreshold) ∧
    (entry.reqRegion decodeThreshold = 1 ↔ entry.isShortExtend decodeThreshold) ∧
    (entry.reqRegion decodeThreshold = 2 ↔ entry.isLongExtend decodeThreshold) ∧
    (entry.reqRegion decodeThreshold = 3 ↔ entry.isPurePrefill) ∧
    entry.reqRegion decodeThreshold < 4 := by
  unfold reqRegion isDecode isShortExtend isLongExtend isPurePrefill
  cases entry.hasContext <;> cases entry.isBelowThreshold decodeThreshold <;>
    cases entry.donePrefilling <;> simp

end BatchEntry

abbrev BatchEntries (n : Nat) (β : Type) := Fin n → BatchEntry β

namespace BatchEntries

variable {n : Nat} {β : Type} (decodeThreshold : Int) (batch : BatchEntries n β)

def swapStates (i1 i2 : Fin n) : BatchEntries n β := batch ∘ Equiv.swap i1 i2

def reqRegions : List Nat := (List.finRange n).map fun row => (batch row).reqRegion decodeThreshold

def count (mask : BatchEntry β → Bool) : Nat := (List.finRange n).countP fun row => mask (batch row)

def targetRegions : List Nat :=
  .replicate (batch.count (·.isDecode decodeThreshold)) 0 ++
    .replicate (batch.count (·.isShortExtend decodeThreshold)) 1 ++
    .replicate (batch.count (·.isLongExtend decodeThreshold)) 2 ++
    .replicate (batch.count (·.isPurePrefill)) 3

variable (regions targets : Fin n → Nat)

def origIndices : List (Fin n) := (List.finRange n).filter fun row => regions row ≠ targets row

def srcIndices : List (Fin n) :=
  (origIndices regions targets).insertionSort fun i j => regions i ≤ regions j

/-- `src_dest_map.get(row, row)`. -/
def srcDestMap (row : Fin n) : Fin n :=
  (((srcIndices regions targets).zip (origIndices regions targets)).lookup row).getD row

/-- The `while` loop of one `src`; without an answer it has not ended. -/
def followCycle (src : Fin n) :
    Nat → Fin n → (Fin n → Fin n) → BatchEntries n β → Option ((Fin n → Fin n) × BatchEntries n β)
  | fuel, dst, srcDestMap, batch =>
    if src = dst then some (srcDestMap, batch)
    else
      match fuel with
      | 0 => none
      | fuel + 1 => followCycle src fuel (srcDestMap dst) (Function.update srcDestMap dst dst)
          (batch.swapStates src dst)

/-- The `for` loop over the keys of `src_dest_map`. -/
def followCycles : List (Fin n) → (Fin n → Fin n) → BatchEntries n β → Option (BatchEntries n β)
  | [], _, batch => some batch
  | src :: rest, srcDestMap, batch => do
      let (srcDestMap, batch) ← followCycle src n (srcDestMap src) srcDestMap batch
      followCycles rest srcDestMap batch

def reorderBatchToSplitDecodesAndPrefills : Option (Bool × BatchEntries n β) := do
  let regions := fun row => (batch row).reqRegion decodeThreshold
  let targets := fun row : Fin n => (batch.targetRegions decodeThreshold).getD row 0
  if origIndices regions targets = [] then some (false, batch)
  else
    let next ← followCycles (srcIndices regions targets) (srcDestMap regions targets) batch
    some (true, next)

variable {decodeThreshold batch} {regions targets : Fin n → Nat}

/-! ## The cycles -/

abbrev Swaps : BatchEntries n β → BatchEntries n β → Prop :=
  Relation.ReflTransGen fun before after => ∃ i1 i2, after = before.swapStates i1 i2

variable (batch) in
/-- The loop of one `src` puts it and the rows of its cycle in their places. `settled` are the
sources before it, whose entries of the map are not read any more. -/
theorem followCycle_spec {src : Fin n} {settled : Fin n → Prop} {fuel : Nat} {srcDestMap : Fin n → Fin n}
    {goal : Equiv.Perm (Fin n)} (enough : goal.support.card ≤ fuel)
    (isSettled : ∀ row, settled row → goal row = row)
    (reads : ∀ row, ¬settled row → row ≠ src → srcDestMap row = goal row) :
    ∃ after next, ∃ left : Equiv.Perm (Fin n),
      followCycle src fuel (goal src) srcDestMap batch = some (after, next) ∧ batch.Swaps next ∧
      (∀ row other, left row = goal other → next row = batch other) ∧
      (∀ row, row = src ∨ goal row = row → left row = row) ∧
      (∀ row, ¬settled row → row ≠ src → after row = left row) := by
  induction fuel using Nat.strong_induction_on generalizing goal srcDestMap batch with
  | _ fuel ih =>
    unfold followCycle
    by_cases inPlace : src = goal src
    · rw [if_pos inPlace]
      refine ⟨_, _, goal, rfl, .refl, fun _ _ same => congrArg batch (goal.injective same),
        fun row fixed => ?_, reads⟩
      rcases fixed with rfl | fixed
      · exact inPlace.symm
      · exact fixed
    · have misplaced : goal src ≠ src := Ne.symm inPlace
      have fewer := card_support_exchanged misplaced
      obtain ⟨fuel, rfl⟩ := Nat.exists_eq_succ_of_ne_zero (n := fuel) (by omega)
      rw [if_neg inPlace]
      -- the destination is neither the source nor a source settled before
      have unsettled : ¬settled (goal src) := fun settles =>
        misplaced (goal.injective (isSettled _ settles))
      rw [reads _ unsettled misplaced, ← exchanged_src]
      obtain ⟨after, next, left, ran, swaps, sameRows, inPlaces, reads⟩ :=
        @ih fuel (Nat.lt_succ_self _) (batch.swapStates src (goal src))
          (update srcDestMap (goal src) (goal src)) (exchanged goal src) (by omega)
          (fun row settles => exchanged_of_fixed (isSettled row settles) fun same =>
            misplaced (isSettled _ (same ▸ settles)))
          (fun row unsettled notSrc => by
            by_cases isPlace : row = goal src
            · rw [isPlace, update_self, exchanged_place]
            · rw [update_of_ne isPlace, reads row unsettled notSrc,
                exchanged_of_ne notSrc isPlace])
      refine ⟨after, next, left, ran, .head ⟨src, goal src, rfl⟩ swaps, fun row other reached => ?_,
        fun row fixed => ?_, reads⟩
      · rw [sameRows row _ (reached.trans (exchanged_swap other).symm)]
        exact congrArg batch (Equiv.swap_apply_self ..)
      · by_cases isSrc : row = src
        · exact inPlaces row (.inl isSrc)
        · exact inPlaces row (.inr (exchanged_of_fixed (fixed.resolve_left isSrc) isSrc))

theorem followCycles_spec {srcs : List (Fin n)} {settled : Fin n → Prop}
    {srcDestMap : Fin n → Fin n} {goal : Equiv.Perm (Fin n)} (nodup : srcs.Nodup)
    (notSettled : ∀ src ∈ srcs, ¬settled src) (isSettled : ∀ row, settled row → goal row = row)
    (reads : ∀ row, ¬settled row → srcDestMap row = goal row)
    (covers : ∀ row, row ∉ srcs → goal row = row) :
    ∃ next, followCycles srcs srcDestMap batch = some next ∧ batch.Swaps next ∧
      ∀ row, next (goal row) = batch row := by
  induction srcs generalizing settled srcDestMap goal batch with
  | nil =>
    refine ⟨batch, rfl, .refl, fun row => ?_⟩
    rw [covers row List.not_mem_nil]
  | cons src rest ih =>
    obtain ⟨isNew, nodup⟩ := List.nodup_cons.mp nodup
    obtain ⟨after, mid, left, ran, swaps, sameRows, inPlaces, readsLeft⟩ :=
      followCycle_spec batch (goal.support.card_le_univ.trans_eq (Fintype.card_fin n))
        isSettled fun row unsettled _ => reads row unsettled
    obtain ⟨next, rounds, later, places⟩ := @ih mid
      (fun row => settled row ∨ row = src) after left nodup
      (fun other isLater settles => settles.elim (notSettled other (List.mem_cons_of_mem _ isLater))
        fun same => isNew (same ▸ isLater))
      (fun row settles => inPlaces row (settles.symm.imp_right (isSettled row)))
      (fun row unsettled => readsLeft row (fun settles => unsettled (.inl settles))
        fun same => unsettled (.inr same))
      (fun row isLater => inPlaces row (or_iff_not_imp_left.mpr fun notSrc =>
        covers row fun isSource => isLater ((List.mem_cons.mp isSource).resolve_left notSrc)))
    refine ⟨next, ?_, swaps.trans later, fun row => ?_⟩
    · rw [followCycles, reads src (notSettled src List.mem_cons_self), ran]
      exact rounds
    · obtain ⟨origin, reached⟩ := left.surjective (goal row)
      rw [← reached, places, sameRows origin row reached]

variable (batch) in
theorem followCycles_sorts (total : ((List.finRange n).map regions).Perm ((List.finRange n).map targets))
    (sorted : ((List.finRange n).map targets).Pairwise (· ≤ ·)) :
    ∃ next, ∃ goal : Equiv.Perm (Fin n),
      followCycles (srcIndices regions targets) (srcDestMap regions targets) batch = some next ∧
      batch.Swaps next ∧ (∀ row, next (goal row) = batch row) ∧
      (∀ row, regions row = targets row → goal row = row) ∧ ∀ row, targets (goal row) = regions row := by
  have isPerm : (srcIndices regions targets).Perm (origIndices regions targets) :=
    List.perm_insertionSort _ _
  have nodup : (origIndices regions targets).Nodup := (List.nodup_finRange n).filter _
  obtain ⟨goal, isGoal, outside, arranged⟩ := exists_rearrangement isPerm nodup
  obtain ⟨next, ran, swaps, places⟩ := @followCycles_spec _ _ batch _ (fun _ => False)
    (srcDestMap regions targets) goal (isPerm.nodup_iff.mpr nodup) (fun _ _ => id) (fun _ => False.elim)
    (fun row _ => isGoal row) outside
  have inPlace : ∀ row, regions row = targets row → goal row = row := fun row same =>
    outside row fun isSource => by simpa [origIndices, same] using isPerm.mem_iff.mp isSource
  refine ⟨next, goal, ran, swaps, places, inPlace, fun row => ?_⟩
  by_cases same : regions row = targets row
  · rw [inPlace row same, same]
  · exact target_rearranged total sorted arranged (by simpa using same)

/-! ## The regions -/

theorem reqRegions_perm : (batch.reqRegions decodeThreshold).Perm (batch.targetRegions decodeThreshold) := by
  have kinds := fun row => (batch row).reqRegion_kinds decodeThreshold
  have counts : ∀ (region : Nat) (mask : BatchEntry β → Bool),
      (∀ row, (batch row).reqRegion decodeThreshold = region ↔ mask (batch row)) →
      (batch.reqRegions decodeThreshold).count region = batch.count mask := by
    intro region mask isMask
    rw [reqRegions, List.count, List.countP_map]
    exact List.countP_congr fun row _ => by simpa using isMask row
  rw [List.perm_iff_count]
  intro region
  rcases region with _ | _ | _ | _ | region
  · rw [counts 0 _ fun row => (kinds row).1]
    simp [targetRegions, List.count_replicate]
  · rw [counts 1 _ fun row => (kinds row).2.1]
    simp [targetRegions, List.count_replicate]
  · rw [counts 2 _ fun row => (kinds row).2.2.1]
    simp [targetRegions, List.count_replicate]
  · rw [counts 3 _ fun row => (kinds row).2.2.2.1]
    simp [targetRegions, List.count_replicate]
  · rw [counts (region + 4) (fun _ => false) fun row => by have := (kinds row).2.2.2.2; simp; omega]
    simp [targetRegions, List.count_replicate, count]

theorem targetRegions_sorted : (batch.targetRegions decodeThreshold).Pairwise (· ≤ ·) := by
  simp only [targetRegions, List.pairwise_append, List.pairwise_replicate, List.mem_append,
    List.mem_replicate]
  grind

theorem map_targetRegions :
    (List.finRange n).map (fun row : Fin n => (batch.targetRegions decodeThreshold).getD row 0) =
      batch.targetRegions decodeThreshold := by
  have sameLength : (batch.targetRegions decodeThreshold).length = n := by
    rw [← reqRegions_perm.length_eq, reqRegions, List.length_map, List.length_finRange]
  refine List.ext_getElem (by simp [sameLength]) fun index _ bound => ?_
  simp [bound]

/-- The decodes come first, then the short and the long extends, then the prefills, by swaps that
leave alone a request inside its own region; the answer says whether the batch changed. -/
theorem reorderBatch_sorts (decodeThreshold : Int) (batch : BatchEntries n β) : ∃ modified next,
    batch.reorderBatchToSplitDecodesAndPrefills decodeThreshold = some (modified, next) ∧
    batch.Swaps next ∧ next.reqRegions decodeThreshold = batch.targetRegions decodeThreshold ∧
    (∀ row : Fin n, (batch.targetRegions decodeThreshold)[row.1]? =
      some ((batch row).reqRegion decodeThreshold) → next row = batch row) ∧
    (modified = true ↔ next ≠ batch) := by
  have total := @reqRegions_perm _ _ decodeThreshold batch
  have sorted := @targetRegions_sorted _ _ decodeThreshold batch
  rw [← map_targetRegions, reqRegions] at total
  rw [← map_targetRegions] at sorted
  obtain ⟨next, goal, ran, swaps, places, inPlace, reached⟩ := followCycles_sorts batch total sorted
  have isSorted : ∀ row, (next row).reqRegion decodeThreshold =
      (batch.targetRegions decodeThreshold).getD row 0 := by
    intro row
    obtain ⟨origin, rfl⟩ := goal.surjective row
    rw [places, reached]
  have inside : ∀ row : Fin n, (batch.targetRegions decodeThreshold)[row.1]? =
      some ((batch row).reqRegion decodeThreshold) → next row = batch row := by
    intro row isInside
    have stays := inPlace row (by rw [List.getD_eq_getElem?_getD, isInside, Option.getD_some])
    rw [← places row, stays]
  have sortedRegions : next.reqRegions decodeThreshold = batch.targetRegions decodeThreshold := by
    rw [← map_targetRegions]
    exact List.map_congr_left fun row _ => isSorted row
  unfold reorderBatchToSplitDecodesAndPrefills
  dsimp only
  split
  next nothing =>
    rw [srcIndices, nothing] at ran
    cases ran
    exact ⟨false, batch, rfl, swaps, sortedRegions, inside, by simp⟩
  next something =>
    obtain ⟨row, isRow⟩ := List.exists_mem_of_ne_nil _ something
    refine ⟨true, next, by rw [ran]; rfl, swaps, sortedRegions, inside, iff_of_true rfl fun same => ?_⟩
    have sorted := isSorted row
    rw [same] at sorted
    exact of_decide_eq_true (List.mem_filter.mp isRow).2 sorted

end BatchEntries

end DeepSpark
